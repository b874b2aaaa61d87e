import Q38Runtime.ToolParsing

/-!
What a model writes and what is read of it: the calls come back as they were written, and what
is accepted is made of calls, but for two gaps. A value with the end of a reasoning in it is
taken for one, and what follows the end of a function in its block is dropped.
-/
namespace Q38.ToolParsing
open ControlPlane MarkerSearch SidecarRequests

section Ends
variable {output : Output}

/-- A call with the segment behind it. -/
def entryText (entry : Call × Segment) : List Char := entry.1.text ++ entry.2.text

theorem output_text (output : Output) :
    output.text = output.first.text ++ output.rest.flatMap entryText := rfl

def Segment.part (segment : Segment) {text : List Char} (inside : text <:+: segment.text) :
    Segment := ⟨text, fun mark member infix_ => segment.plain mark member (infix_.trans inside)⟩

theorem entries_head (rest : List (Call × Segment)) :
    ∀ letter ∈ (rest.flatMap entryText).head?, letter = '<' := by
  cases rest with
  | nil =>
      rintro letter ⟨⟩
  | cons entry rest =>
      rintro letter ⟨⟩
      rfl

theorem call_text_last (front : List Char) (call : Call) :
    (front ++ call.text).getLast? = some '>' := by
  simp only [Call.text, ← List.append_assoc]
  rw [List.getLast?_append_of_ne_nil _ (by decide)]
  rfl

theorem start_plain {mark : List Char} (listed : mark ∈ [thinkMark, thinkClose, callMark, imEnd])
    (headed : Headed mark) (bracket : '<' ∈ mark.head?) (clears : Clears mark callMark) :
    ¬ mark <+: output.text := by
  obtain ⟨first, rest⟩ := output
  intro start
  rw [output_text] at start
  dsimp only at start
  by_cases empty : first.text = []
  · rw [empty, List.nil_append] at start
    cases rest with
    | nil => exact headed.some_ (List.prefix_nil.mp start)
    | cons entry rest =>
        simp only [List.flatMap_cons, entryText, Call.text, List.append_assoc] at start
        exact clears_prefix clears (by decide) start
  · have edge : ∀ letter ∈ (rest.flatMap entryText).head?, letter ∉ mark.tail := by
      intro letter member
      obtain ⟨other, tail, rfl⟩ := List.exists_cons_of_ne_nil headed.some_
      have same : other = '<' := by simpa using bracket
      rw [entries_head rest letter member, ← same]
      exact headed
    exact first.plain mark listed (prefix_append edge empty start).isInfix

theorem end_plain : ¬ imEnd <:+ output.text := by
  obtain ⟨first, rest⟩ := output
  intro ending
  rw [output_text] at ending
  dsimp only at ending
  rcases List.eq_nil_or_concat' rest with rfl | ⟨init, ⟨call, last⟩, rfl⟩
  · rw [List.flatMap_nil, List.append_nil] at ending
    exact first.plain imEnd (by simp) ending.isInfix
  · rw [List.flatMap_append, List.flatMap_singleton, entryText, ← List.append_assoc,
      ← List.append_assoc] at ending
    by_cases empty : last.text = []
    · rw [empty, List.append_nil, Call.text, ← List.append_assoc, ← List.append_assoc] at ending
      have short := List.suffix_of_suffix_length_le ending (List.suffix_append _ callClose)
        (by decide)
      exact absurd short (by decide)
    · have edge : ∀ letter ∈ (first.text ++ init.flatMap entryText ++ call.text).getLast?,
          letter ∉ imEnd.dropLast := by
        intro letter member
        rw [call_text_last] at member
        cases member
        decide
      exact last.plain imEnd (by simp) (suffix_append edge empty ending).isInfix

theorem think_free (free : ∀ call ∈ output.calls, ∀ parameter ∈ call.parameters,
    ¬ thinkClose <:+: parameter.value) : ¬ thinkClose <:+: output.text := by
  obtain ⟨first, rest⟩ := output
  rw [output_text]
  dsimp only [Output.calls] at free ⊢
  induction rest generalizing first with
  | nil =>
      rw [List.flatMap_nil, List.append_nil]
      exact first.plain thinkClose (by simp)
  | cons entry rest ih =>
      obtain ⟨call, next⟩ := entry
      have later := ih next fun other member => free other (List.mem_cons_of_mem call member)
      have here := free call List.mem_cons_self
      apply think_close_foreign.joint (first.plain thinkClose (by simp))
      · simp only [List.flatMap_cons, entryText, Call.text, List.append_assoc]
        apply clears_free (by decide)
        apply think_close_foreign.inner here
        exact clears_free (by decide) later
      · exact entries_head _

theorem think_inside {call : Call} {parameter : Parameter} (member : call ∈ output.calls)
    (member_ : parameter ∈ call.parameters) (inside : thinkClose <:+: parameter.value) :
    thinkClose <:+: output.text := by
  obtain ⟨entry, listed, rfl⟩ := List.mem_map.mp member
  have value : parameter.value <:+: parameter.text :=
    ⟨parameter.space ++ (parameterMark ++ (parameter.name ++ ['>'])), parameterClose,
      by simp only [Parameter.text, List.append_assoc]⟩
  have text : parameter.text <:+: entry.1.parameters.flatMap Parameter.text :=
    infix_flatMap member_ Parameter.text
  have inner : entry.1.parameters.flatMap Parameter.text <:+: entry.1.inner :=
    ⟨entry.1.before ++ (functionMark ++ (entry.1.name ++ ['>'])),
      entry.1.after ++ (functionClose ++ entry.1.last),
      by simp only [Call.inner, List.append_assoc]⟩
  have whole : entry.1.inner <:+: entryText entry :=
    ⟨callMark, callClose ++ entry.2.text, by simp only [entryText, Call.text, List.append_assoc]⟩
  have rest : entryText entry <:+: output.rest.flatMap entryText :=
    infix_flatMap listed entryText
  exact inside.trans (value.trans (text.trans (inner.trans (whole.trans
    (rest.trans (List.suffix_append _ _).isInfix)))))

/-- What is stripped is again an output, with the same calls and the same text shown. -/
theorem output_trimmed (output : Output) : ∃ kept : Output,
    strip whitespace output.text = kept.text ∧ kept.calls = output.calls ∧
      strip whitespace kept.shown = strip whitespace output.shown := by
  obtain ⟨first, rest⟩ := output
  rcases List.eq_nil_or_concat' rest with rfl | ⟨init, ⟨call, last⟩, rfl⟩
  · have inside : strip whitespace first.text <:+: first.text := by
      obtain ⟨left, right, same, _, _⟩ := strip_parts whitespace first.text
      exact ⟨left, right, by rw [List.append_assoc, ← same]⟩
    refine ⟨⟨first.part inside, []⟩, ?_, rfl, ?_⟩
    · simp [Output.text, Segment.part]
    · simp [Output.shown, Segment.part, strip_strip]
  · let front := first.text.dropWhile whitespace
    let back := last.text.rdropWhile whitespace
    let left := first.text.takeWhile whitespace
    let right := last.text.rtakeWhile whitespace
    have front_ : first.text = left ++ front := List.takeWhile_append_dropWhile.symm
    have back_ : last.text = back ++ right := List.rdropWhile_append_rtakeWhile.symm
    have spaces : ∀ letter ∈ left, whitespace letter :=
      fun _ member => List.mem_takeWhile_imp member
    have spaces_ : ∀ letter ∈ right, whitespace letter :=
      fun _ member => List.mem_rtakeWhile_imp member
    have frontInside : front <:+: first.text := (List.dropWhile_suffix _).isInfix
    have backInside : back <:+: last.text := (List.rdropWhile_prefix _ _).isInfix
    refine ⟨⟨first.part frontInside, init ++ [(call, last.part backInside)]⟩, ?_, ?_, ?_⟩
    · have whole : Output.text ⟨first, init ++ [(call, last)]⟩ =
          left ++ ((front ++ (init.flatMap entryText ++ call.text) ++ back) ++ right) := by
        rw [output_text, List.flatMap_append, List.flatMap_singleton, entryText]
        simp only [front_, back_, List.append_assoc]
      have kept : Output.text ⟨first.part frontInside, init ++ [(call, last.part backInside)]⟩ =
          front ++ (init.flatMap entryText ++ call.text) ++ back := by
        rw [output_text, List.flatMap_append, List.flatMap_singleton, entryText]
        simp only [Segment.part, List.append_assoc]
      rw [whole, kept]
      apply strip_padded spaces spaces_
      · intro letter member
        by_cases empty : front = []
        · have here : letter ∈
              ((init ++ [(call, last.part backInside)]).flatMap entryText).head? := by
            have same : (last.part backInside).text = back := rfl
            rw [List.flatMap_append, List.flatMap_singleton, entryText, same]
            simpa only [empty, List.nil_append, List.append_assoc] using member
          rw [entries_head _ letter here]
          decide
        · rw [List.append_assoc, List.head?_append_of_ne_nil _ empty] at member
          exact dropWhile_head member
      · intro letter member
        by_cases empty : back = []
        · rw [empty, List.append_nil, ← List.append_assoc, call_text_last] at member
          cases member
          decide
        · rw [List.getLast?_append_of_ne_nil _ empty] at member
          exact rdropWhile_end member
    · simp [Output.calls]
    · have whole : Output.shown ⟨first, init ++ [(call, last)]⟩ =
          left ++ ((front ++ ((init.flatMap fun entry => entry.2.text) ++ back)) ++ right) := by
        rw [Output.shown, List.flatMap_append, List.flatMap_singleton]
        simp only [front_, back_, List.append_assoc]
      have kept : Output.shown ⟨first.part frontInside, init ++ [(call, last.part backInside)]⟩ =
          front ++ ((init.flatMap fun entry => entry.2.text) ++ back) := by
        rw [Output.shown, List.flatMap_append, List.flatMap_singleton]
        rfl
      rw [whole, kept, strip_spaces spaces spaces_]

end Ends

section RoundTrips
variable {python : Python} {requestId : List Char} {output : Output}

/-- The value an argument has: that of JSON, or the text. -/
def argument (python : Python) (value : List Char) : Option Json :=
  match python.loads (strip whitespace value) with
  | .value json => some json
  | .decodeError => some (.text (String.ofList (strip whitespace value)))
  | .raised => none

def expectedCall (python : Python) (call : Call) :
    Option (List Char × List (List Char × Json)) := do
  let read ← call.parameters.mapM fun parameter => do
    let json ← argument python parameter.value
    return (parameter.name, json)
  return (call.name, read)

/-- Exactly the calls are read, in their order and with ids of their own, and the segments
are shown. -/
def RoundTrip (python : Python) (requestId : List Char) (output : Output) : Prop :=
  ∃ read, output.calls.mapM (expectedCall python) = some read ∧
    parseToolOutput python output.text requestId = .ok (none,
      someText (strip whitespace output.shown), numbered python requestId 0 read) ∧
    ((numbered python requestId 0 read).map ToolCall.id).Nodup

theorem parameter_value (value : List Char) :
    (parameterValue python value).toOption = argument python value := by
  unfold parameterValue argument
  cases python.loads (strip whitespace value) <;> rfl

theorem read_call (call : Call) : (readCall python call).toOption = expectedCall python call := by
  rw [readCall, expectedCall, FallibleRuns.bind_option, FallibleRuns.map_option]
  have each : ∀ parameter, (readParameter python parameter).toOption =
      (argument python parameter.value >>= fun json => some (parameter.name, json)) := by
    intro parameter
    rw [readParameter, FallibleRuns.bind_option, parameter_value]
    rfl
  simp only [each]
  rfl

theorem read_calls (calls : List Call) :
    (calls.mapM (readCall python)).toOption = calls.mapM (expectedCall python) := by
  rw [FallibleRuns.map_option]
  simp only [read_call]

theorem to_option_ok {α ε : Type} {result : Except ε α} {value : α} :
    result.toOption = some value ↔ result = .ok value := by
  cases result <;> simp [Except.toOption]

/-- Where no value has the end of a reasoning, there is none and all is visible. -/
theorem reasoning_none (free : ∀ call ∈ output.calls, ∀ parameter ∈ call.parameters,
    ¬ thinkClose <:+: parameter.value) : ∃ kept : Output, visibleText output.text = kept.text ∧
      (stripReasoning output.text).1 = none ∧ kept.calls = output.calls ∧
      strip whitespace kept.shown = strip whitespace output.shown := by
  obtain ⟨kept, stripped, calls, shown⟩ := output_trimmed output
  have plain : ¬ thinkMark <+: kept.text :=
    start_plain (by simp) think_mark_headed (by decide) (by decide)
  have missing : find kept.text thinkClose 0 = none :=
    @find_missing _ _ thinkClose kept.text [] think_close_headed (think_free (calls ▸ free))
  have reasoning : stripReasoning output.text = (none, kept.text) := by
    unfold stripReasoning
    simp only [stripped, plain, if_false, missing]
  refine ⟨kept, ?_, by rw [reasoning], calls, shown⟩
  unfold visibleText
  rw [reasoning]
  dsimp only
  rw [if_neg end_plain, ← stripped, strip_strip]

/-- Where a value has it, what stands before is taken for a reasoning. -/
theorem reasoning_some {call : Call} {parameter : Parameter} (member : call ∈ output.calls)
    (member_ : parameter ∈ call.parameters) (inside : thinkClose <:+: parameter.value) :
    (stripReasoning output.text).1 ≠ none := by
  obtain ⟨kept, stripped, calls, _⟩ := output_trimmed output
  have plain : ¬ thinkMark <+: kept.text :=
    start_plain (by simp) think_mark_headed (by decide) (by decide)
  have first : ¬ thinkClose <+: kept.text :=
    start_plain (by simp) think_close_headed (by decide) (by decide)
  have held : thinkClose <:+: kept.text := think_inside (calls ▸ member) member_ inside
  obtain ⟨place, found⟩ : ∃ place, find kept.text thinkClose 0 = some place := by
    rw [← Option.ne_none_iff_exists']
    intro missing
    exact @find_none _ _ thinkClose kept.text [] missing held
  obtain ⟨before, after, same, place_, _⟩ :=
    @find_found _ _ thinkClose kept.text [] think_close_headed place found
  have some_ : before ≠ [] := by
    rintro rfl
    exact first ⟨after, same.symm⟩
  obtain ⟨letter, rest, rfl⟩ := List.exists_cons_of_ne_nil some_
  have visible : ¬ whitespace letter := by
    apply @strip_head _ whitespace output.text
    rw [stripped, same]
    rfl
  have taken : kept.text.take place = letter :: rest := by
    rw [same, place_, List.length_nil, Nat.zero_add, List.take_left]
  have kept_ : strip whitespace (letter :: rest) ≠ [] :=
    strip_some List.mem_cons_self visible
  unfold stripReasoning
  simp only [stripped, plain, if_false, found, taken, someText, kept_]
  exact Option.some_ne_none _

theorem numbered_ids (index : Nat) (read : List (List Char × List (List Char × Json))) :
    (numbered python requestId index read).map ToolCall.id =
      (List.range' index read.length).map (callId requestId) := by
  induction read generalizing index with
  | nil => rfl
  | cons call read ih => simp [numbered, ih, List.range'_succ]

theorem ids_distinct (index : Nat) (read : List (List Char × List (List Char × Json))) :
    ((numbered python requestId index read).map ToolCall.id).Nodup := by
  rw [numbered_ids]
  apply List.Nodup.map _ List.nodup_range'
  intro first second same
  have digits := List.append_cancel_left same
  exact TextFields.decimal_injective (List.tail_eq_of_cons_eq digits)

theorem argument_some {value : List Char} :
    argument python value ≠ none ↔ python.loads (strip whitespace value) ≠ .raised := by
  unfold argument
  cases python.loads (strip whitespace value) <;> simp

theorem expected_some {call : Call} : expectedCall python call ≠ none ↔
    ∀ parameter ∈ call.parameters, argument python parameter.value ≠ none := by
  have step : ∀ parameter : Parameter, (argument python parameter.value >>= fun json =>
      some (parameter.name, json)) ≠ none ↔ argument python parameter.value ≠ none := by
    intro parameter
    cases argument python parameter.value <;> simp
  have all : expectedCall python call ≠ none ↔ (call.parameters.mapM fun parameter =>
      argument python parameter.value >>= fun json => some (parameter.name, json)) ≠ none := by
    change ((call.parameters.mapM fun parameter =>
      argument python parameter.value >>= fun json => some (parameter.name, json)) >>=
        fun read => some (call.name, read)) ≠ none ↔ _
    generalize (call.parameters.mapM fun parameter =>
      argument python parameter.value >>= fun json => some (parameter.name, json)) = read
    cases read <;> simp
  rw [all]
  constructor
  · intro some_ parameter member
    exact (step parameter).mp (FallibleRuns.map_some_each some_ parameter member)
  · intro each
    exact FallibleRuns.map_some fun parameter member => (step parameter).mpr (each parameter member)

theorem entries_long (rest : List (Call × Segment)) :
    rest.length ≤ (rest.flatMap entryText).length := by
  induction rest with
  | nil => exact Nat.le_refl 0
  | cons entry rest ih =>
      have some_ : 1 ≤ (entryText entry).length := by
        have mark : callMark.length = 11 := rfl
        simp only [entryText, Call.text, List.length_append]
        omega
      rw [List.flatMap_cons, List.length_append, List.length_cons]
      omega

/-- The calls of an output are read as written if no value has the end of a reasoning and
`json.loads` raises nothing but its own error. -/
theorem round_trip_iff : RoundTrip python requestId output ↔
    ∀ call ∈ output.calls, ∀ parameter ∈ call.parameters,
      ¬ thinkClose <:+: parameter.value ∧
        python.loads (strip whitespace parameter.value) ≠ .raised := by
  constructor
  · rintro ⟨read, expected, parsed, _⟩ call member parameter member_
    have each := FallibleRuns.map_some_each (expected ▸ Option.some_ne_none read) call member
    refine ⟨fun inside => ?_, argument_some.mp (expected_some.mp each parameter member_)⟩
    obtain ⟨_, _, answered⟩ := FallibleRuns.bind_ok parsed
    exact reasoning_some member member_ inside (Prod.ext_iff.mp (Except.ok.inj answered)).1
  · intro each
    obtain ⟨kept, visible, reasoning, calls, shown⟩ :=
      reasoning_none fun call member parameter member_ => (each call member parameter member_).1
    obtain ⟨read, expected⟩ := Option.ne_none_iff_exists'.mp (FallibleRuns.map_some
      fun call member => expected_some.mpr fun parameter member_ =>
        argument_some.mpr (each call member parameter member_).2)
    have ran : output.calls.mapM (readCall python) = .ok read :=
      to_option_ok.mp ((read_calls output.calls).trans expected)
    refine ⟨read, expected, ?_, ids_distinct 0 read⟩
    have plain : ¬ callMark <:+: kept.first.text := kept.first.plain callMark (by simp)
    have enough : kept.rest.length < kept.text.length + 1 := by
      have long := entries_long kept.rest
      rw [output_text, List.length_append]
      omega
    have parsed := @parse_calls python requestId [] kept.first.text [] [] kept.rest _ plain enough
    have listed : kept.rest.map Prod.fst = output.calls := calls
    rw [listed, ran] at parsed
    unfold parseToolOutput
    rw [visible, reasoning]
    dsimp only
    have whole : kept.text = [] ++ (kept.first.text ++ kept.rest.flatMap fun entry =>
        entry.1.text ++ entry.2.text) := rfl
    have joined : (([] : List (List Char)) ++ kept.first.text ::
        kept.rest.map fun entry => entry.2.text).flatten = kept.shown := by
      simp [Output.shown, List.flatMap_def]
    rw [← whole, List.length_nil] at parsed
    rw [parsed]
    simp only [bind, Except.bind, pure, Except.pure, List.length_nil, List.nil_append] at joined ⊢
    rw [joined, shown]

end RoundTrips

section Reading
variable {python : Python} {requestId : List Char} {front text block : List Char}
  {met arguments : List (List Char × Json)}

/-- What the loop over the parameters accepts is parameters with space between them. -/
theorem parameters_read {fuel : Nat} (free : ¬ callClose <:+: text)
    (distinct : (met.map Prod.fst).Nodup)
    (parsed : parseParameters python fuel (front ++ text) front.length met = .ok arguments) :
    ∃ (parameters : List Parameter) (tail : List Char),
      text = parameters.flatMap Parameter.text ++ tail ∧ (∀ letter ∈ tail, whitespace letter) ∧
        (met.map Prod.fst ++ parameters.map Parameter.name).Nodup := by
  induction fuel generalizing front text met with
  | zero => cases parsed
  | succ fuel ih =>
      rw [parseParameters, List.drop_left] at parsed
      split at parsed
      · rename_i short
        have empty : text = [] := by
          rw [List.length_append] at short
          exact List.eq_nil_of_length_eq_zero (by omega)
        exact ⟨[], [], by simpa using empty, by simp, by simpa using distinct⟩
      split at parsed
      · rename_i blank
        exact ⟨[], text, rfl, strip_nil blank, by simpa using distinct⟩
      obtain ⟨space, rest, text_, spaces, rest_⟩ : ∃ space rest, text = space ++ rest ∧
          (∀ letter ∈ space, whitespace letter) ∧ text.dropWhile whitespace = rest :=
        ⟨_, _, List.takeWhile_append_dropWhile.symm, fun _ member => List.mem_takeWhile_imp member,
          rfl⟩
      have cursor : front.length + (text.length - rest.length) = (front ++ space).length := by
        simp only [text_, List.length_append]
        omega
      have atSpace : front ++ text = (front ++ space) ++ rest := by
        rw [List.append_assoc, ← text_]
      rw [rest_] at parsed
      simp only [cursor] at parsed
      rw [atSpace, List.drop_left] at parsed
      split at parsed
      · cases parsed
      rename_i marked
      rw [not_not] at marked
      obtain ⟨behind, rest_'⟩ := marked
      split at parsed
      · cases parsed
      rename_i headerEnd header
      obtain ⟨before, after, same, headerEnd_, bracket⟩ := find_found bracket_headed header
      obtain ⟨name, before_, behind_⟩ := clears_before (by decide : Clears ['>'] parameterMark)
        (rest_'.trans same)
      have atName : front ++ space ++ rest =
          (front ++ space ++ parameterMark) ++ (name ++ (['>'] ++ after)) := by
        rw [same, before_]
        simp only [List.append_assoc]
      have headerEnd_' : headerEnd = (front ++ space ++ parameterMark ++ name).length := by
        rw [headerEnd_, before_]
        simp only [List.length_append, Nat.add_assoc]
      have name_ : slice (front ++ space ++ rest) ((front ++ space).length + parameterMark.length)
          headerEnd = name := by
        rw [atName, headerEnd_', ← List.length_append, @List.length_append _ _ name]
        exact slice_middle _ _ _
      simp only [name_] at parsed
      split at parsed
      · cases parsed
      rename_i valid
      rw [not_or, Bool.not_eq_false] at valid
      obtain ⟨named, fresh⟩ := valid
      split at parsed
      · cases parsed
      rename_i parameterEnd footer
      have atBracket : front ++ space ++ rest =
          (front ++ space ++ parameterMark ++ name) ++ (['>'] ++ after) := by
        rw [atName]
        simp only [List.append_assoc]
      rw [atBracket, headerEnd_'] at footer
      obtain ⟨body, tail, same_, parameterEnd_, closed⟩ := find_found parameter_close_headed footer
      obtain ⟨value, body_, after_⟩ := clears_before (by decide : Clears parameterClose ['>']) same_
      have atValue : front ++ space ++ rest = (front ++ space ++ parameterMark ++ name ++ ['>']) ++
          (value ++ (parameterClose ++ tail)) := by
        rw [atBracket, after_]
        simp only [List.append_assoc]
      have one : headerEnd + 1 = (front ++ space ++ parameterMark ++ name ++ ['>']).length := by
        rw [headerEnd_', @List.length_append _ _ ['>'], List.length_singleton]
      have parameterEnd_' : parameterEnd =
          (front ++ space ++ parameterMark ++ name ++ ['>']).length + value.length := by
        rw [parameterEnd_, body_]
        simp only [List.length_append, Nat.add_assoc]
      have value_ : slice (front ++ space ++ rest) (headerEnd + 1) parameterEnd = value := by
        rw [atValue, one, parameterEnd_']
        exact slice_middle _ _ _
      obtain ⟨json, _, parsed⟩ := FallibleRuns.bind_ok parsed
      have inside : value <:+: text := by
        refine ⟨space ++ parameterMark ++ name ++ ['>'], parameterClose ++ tail, ?_⟩
        rw [text_, same, before_, after_]
        simp only [List.append_assoc]
      have inside_ : tail <:+: text := by
        refine ⟨space ++ parameterMark ++ name ++ ['>'] ++ value ++ parameterClose, [], ?_⟩
        rw [text_, same, before_, after_]
        simp only [List.append_assoc, List.append_nil]
      let parameter : Parameter :=
        { space, name, value, spaces, named
          closed := fun held => closed (held.trans (body_ ▸ (List.suffix_append _ _).isInfix))
          ended := fun held => free (held.trans inside) }
      have written : text = parameter.text ++ tail := by
        rw [text_, same, before_, after_]
        simp only [parameter, Parameter.text, List.append_assoc]
      have whole : front ++ space ++ rest = (front ++ parameter.text) ++ tail := by
        rw [List.append_assoc, ← text_, written, List.append_assoc]
      have next : parameterEnd + parameterClose.length = (front ++ parameter.text).length := by
        rw [parameterEnd_']
        simp only [parameter, Parameter.text, List.length_append]
        omega
      rw [whole, next] at parsed
      have distinct_ : ((met ++ [(name, json)]).map Prod.fst).Nodup := by
        rw [List.map_append, List.nodup_append']
        refine ⟨distinct, by simp, ?_⟩
        simpa using fresh
      obtain ⟨parameters, rest, tail_, blank, distinct_'⟩ :=
        ih (fun held => free (held.trans inside_)) distinct_ parsed
      refine ⟨parameter :: parameters, rest, ?_, blank, ?_⟩
      · rw [written, tail_, List.flatMap_cons, List.append_assoc]
      · simpa [parameter] using distinct_'

/-- What a block is accepted as: a function with its parameters, and anything behind it. -/
theorem block_read {name : List Char} (free : ¬ callClose <:+: block)
    (parsed : parseBlock python block = .ok (name, arguments)) :
    ∃ (parameters : List Parameter) (after dropped : List Char), validName name ∧
      (∀ letter ∈ after, whitespace letter) ∧ (parameters.map Parameter.name).Nodup ∧
      block = functionMark ++ (name ++ (['>'] ++ ((parameters.flatMap Parameter.text ++ after) ++
        (functionClose ++ dropped)))) ∧
      (functionClose <:+ block → dropped = []) := by
  unfold parseBlock at parsed
  split at parsed
  case h_2 => cases parsed
  rename_i start
  split at parsed
  case h_2 => cases parsed
  rename_i headerEnd functionEnd header footer
  split at parsed
  · cases parsed
  rename_i ordered
  dsimp only at parsed
  split at parsed
  · cases parsed
  rename_i valid
  rw [Bool.not_eq_false] at valid
  obtain ⟨before, behind, block_, before_, _⟩ :=
    @find_found _ _ functionMark block [] function_mark_headed _ start
  have empty : before = [] := List.eq_nil_of_length_eq_zero (by simpa using before_.symm)
  rw [empty, List.nil_append] at block_
  obtain ⟨head, after, same, headerEnd_, bracket⟩ :=
    @find_found _ _ ['>'] block [] bracket_headed _ header
  obtain ⟨name_, head_, behind_⟩ := clears_before (by decide : Clears ['>'] functionMark)
    (block_.symm.trans same)
  obtain ⟨body, dropped, block_', functionEnd_⟩ := rfind_found (by decide) footer
  rw [List.length_nil, Nat.zero_add] at headerEnd_
  have longer : head.length ≤ body.length := by omega
  obtain ⟨middle, body_, after_⟩ : ∃ middle, body = head ++ middle ∧
      ['>'] ++ after = middle ++ (functionClose ++ dropped) := by
    rcases List.append_eq_append_iff.mp (same.symm.trans block_') with
      ⟨middle, here, there⟩ | ⟨tail, here, there⟩
    · exact ⟨middle, here, there⟩
    · have none_ : tail = [] := by
        apply List.eq_nil_of_length_eq_zero
        have long := congrArg List.length here
        rw [List.length_append] at long
        omega
      exact ⟨[], by simpa [none_] using here.symm, by simpa [none_] using there.symm⟩
  obtain ⟨inside, middle_, after_'⟩ := clears_before (by decide : Clears functionClose ['>']) after_
  have named : slice block functionMark.length headerEnd = name_ := by
    rw [block_, behind_, headerEnd_, head_, @List.length_append _ _ name_]
    exact slice_middle _ _ _
  have one : headerEnd + 1 = (functionMark ++ name_ ++ ['>']).length := by
    rw [headerEnd_, head_, @List.length_append _ _ ['>'], List.length_singleton]
  have functionEnd_' : functionEnd =
      (functionMark ++ name_ ++ ['>']).length + inside.length := by
    rw [functionEnd_, body_, middle_, head_]
    simp only [List.length_append, Nat.add_assoc]
  have written : block = functionMark ++ (name_ ++ (['>'] ++ (inside ++
      (functionClose ++ dropped)))) := by
    rw [block_, behind_, after_']
  have inside_ : slice block (headerEnd + 1) functionEnd = inside := by
    have atInside : block = (functionMark ++ name_ ++ ['>']) ++ (inside ++
        (functionClose ++ dropped)) := by
      rw [written]
      simp only [List.append_assoc]
    rw [one, functionEnd_', atInside]
    exact slice_middle _ _ _
  rw [named] at parsed valid
  rw [inside_] at parsed
  obtain ⟨read, accepted, answered⟩ := FallibleRuns.bind_ok parsed
  cases answered
  have free_ : ¬ callClose <:+: inside := by
    intro held
    refine free (held.trans ⟨functionMark ++ name ++ ['>'], functionClose ++ dropped, ?_⟩)
    rw [written]
    simp only [List.append_assoc]
  obtain ⟨parameters, tail, inside_', blank, distinct⟩ :=
    @parameters_read python [] inside [] arguments _ free_ List.nodup_nil accepted
  refine ⟨parameters, tail, dropped, valid, blank, by simpa using distinct, ?_, ?_⟩
  · rw [written, inside_']
  · rintro ⟨front, closed⟩
    have place := @rfind_last _ _ functionClose front (by decide)
    rw [closed, footer] at place
    have lengths := congrArg List.length (closed.trans block_')
    simp only [List.length_append] at lengths
    apply List.eq_nil_of_length_eq_zero
    have same_ := Option.some.inj place
    omega

/-- The blocks between the markers of calls, up to the first end behind each of them. -/
inductive Blocks : List Char → List (List Char) → Prop
  | last {text : List Char} (free : ¬ callMark <:+: text) : Blocks text []
  | next {before block rest : List Char} {blocks : List (List Char)}
      (free : ¬ callMark <:+: before) (closed : ¬ callClose <:+: block)
      (later : Blocks rest blocks) :
      Blocks (before ++ (callMark ++ (block ++ (callClose ++ rest)))) (block :: blocks)

theorem calls_read {fuel : Nat} {parts parts_ : List (List Char)} {calls calls_ : List ToolCall}
    (parsed : parseCalls python requestId fuel (front ++ text) front.length parts calls =
      .ok (parts_, calls_)) :
    ∃ blocks, Blocks text blocks ∧ calls_.length = calls.length + blocks.length ∧
      ∀ block ∈ blocks, ¬ callClose <:+: block ∧
        ∃ read, parseBlock python (strip whitespace block) = .ok read := by
  induction fuel generalizing front text parts calls with
  | zero => cases parsed
  | succ fuel ih =>
      rw [parseCalls] at parsed
      split at parsed
      · rename_i missing
        cases parsed
        exact ⟨[], .last (find_none missing), rfl, by simp⟩
      rename_i start found
      obtain ⟨before, behind, text_, start_, free⟩ := find_found call_mark_headed found
      split at parsed
      · cases parsed
      rename_i stop ended
      have atMark : front ++ text = (front ++ before) ++ (callMark ++ behind) := by
        rw [text_, List.append_assoc]
      rw [atMark, start_, ← List.length_append] at ended
      obtain ⟨body, rest, same, stop_, closed⟩ := find_found call_close_headed ended
      obtain ⟨block, body_, behind_⟩ := clears_before (by decide : Clears callClose callMark) same
      have atBlock : front ++ text = (front ++ before ++ callMark) ++ (block ++
          (callClose ++ rest)) := by
        rw [atMark, behind_]
        simp only [List.append_assoc]
      have block_ : slice (front ++ text) (start + callMark.length) stop = block := by
        have stop_' : stop = (front ++ before ++ callMark).length + block.length := by
          rw [stop_, body_]
          simp only [List.length_append, Nat.add_assoc]
        rw [atBlock, start_, ← List.length_append, ← List.length_append, stop_']
        exact slice_middle _ _ _
      rw [block_] at parsed
      obtain ⟨⟨name, arguments⟩, read, parsed⟩ := FallibleRuns.bind_ok parsed
      have whole : front ++ text = (front ++ before ++ callMark ++ block ++ callClose) ++ rest := by
        rw [atBlock]
        simp only [List.append_assoc]
      have next : stop + callClose.length =
          (front ++ before ++ callMark ++ block ++ callClose).length := by
        rw [stop_, body_]
        simp only [List.length_append]
        omega
      dsimp only at parsed
      rw [next, whole] at parsed
      have free_ : ¬ callClose <:+: block :=
        fun held => closed (held.trans (body_ ▸ (List.suffix_append _ _).isInfix))
      obtain ⟨blocks, later, count, each⟩ := ih parsed
      refine ⟨block :: blocks, ?_, ?_, ?_⟩
      · rw [text_, behind_]
        exact .next free free_ later
      · rw [count, List.length_append, List.length_singleton, List.length_cons]
        omega
      · intro other member
        rcases List.mem_cons.mp member with rfl | member
        · exact ⟨free_, _, read⟩
        · exact each other member

/-- Nothing in a block is outside of its function and the parameters. -/
def ElementsOnly (block : List Char) : Prop := ∃ call : Call, block = call.inner

theorem elements_closed (elements : ElementsOnly block) :
    functionClose <:+ strip whitespace block := by
  obtain ⟨call, rfl⟩ := elements
  rw [body_stripped]
  exact ⟨functionMark ++ (call.name ++ (['>'] ++
    (call.parameters.flatMap Parameter.text ++ call.after))),
    by simp only [Call.body, List.append_assoc]⟩

/-- A block that is accepted has nothing dropped if it ends where its function does. -/
theorem elements_iff {read : List Char × List (List Char × Json)} (free : ¬ callClose <:+: block)
    (parsed : parseBlock python (strip whitespace block) = .ok read) :
    ElementsOnly block ↔ functionClose <:+ strip whitespace block := by
  constructor
  · exact elements_closed
  · intro closed
    obtain ⟨left, right, same, spaces, spaces_⟩ := strip_parts whitespace block
    have inside : strip whitespace block <:+: block := ⟨left, right, by
      rw [List.append_assoc, ← same]⟩
    obtain ⟨parameters, after, dropped, named, blank, distinct, written, nothing⟩ :=
      block_read (fun held => free (held.trans inside)) parsed
    have spaces_' : ∀ letter ∈ left ++ (after ++ right), whitespace letter := by
      intro letter member
      rcases List.mem_append.mp member with member | member
      · exact spaces letter member
      · rcases List.mem_append.mp member with member | member
        · exact blank letter member
        · exact spaces_ letter member
    refine ⟨⟨left, read.1, parameters, after, right, spaces_', named, distinct⟩, ?_⟩
    rw [same, written, nothing closed]
    simp only [Call.inner, List.append_assoc, List.append_nil]

/-- The fuel suffices, as every turn gets on. -/
theorem parameters_finish {whole : List Char} {cursor fuel : Nat}
    (enough : whole.length ≤ cursor + fuel) :
    parseParameters python (fuel + 1) whole cursor met ≠ .error .unfinished := by
  induction fuel generalizing cursor met with
  | zero =>
      rw [parseParameters, if_pos (by omega)]
      simp
  | succ fuel ih =>
      rw [parseParameters]
      split
      · simp
      split
      · simp
      dsimp only
      split
      · simp [invalid]
      split
      · simp [invalid]
      rename_i headerEnd header
      split
      · simp [invalid]
      split
      · simp [invalid]
      rename_i parameterEnd footer
      have first := find_from header
      have second := find_from footer
      have mark : parameterClose.length = 12 := rfl
      cases read : parameterValue python (slice whole (headerEnd + 1) parameterEnd) with
      | error error =>
          unfold parameterValue at read
          split at read <;> cases read
          intro same
          cases same
      | ok json => exact ih (by omega)

theorem block_finishes : parseBlock python block ≠ .error .unfinished := by
  unfold parseBlock
  split
  case h_2 => simp [invalid]
  split
  case h_2 => simp [invalid]
  split
  · simp [invalid]
  dsimp only
  split
  · simp [invalid]
  rename_i headerEnd functionEnd _ _ _ _
  generalize inside_ : slice block (headerEnd + 1) functionEnd = inside
  have finishes := @parameters_finish python [] inside 0 inside.length (by omega)
  cases read : parseParameters python (inside.length + 1) inside 0 [] with
  | error error =>
      intro same
      cases same
      exact finishes read
  | ok arguments => simp

theorem calls_finish {whole : List Char} {cursor fuel : Nat} {parts : List (List Char)}
    {calls : List ToolCall} (enough : whole.length ≤ cursor + fuel) :
    parseCalls python requestId (fuel + 1) whole cursor parts calls ≠ .error .unfinished := by
  induction fuel generalizing cursor parts calls with
  | zero =>
      have missing : find whole callMark cursor = none := by
        rw [find, List.drop_eq_nil_of_le (by omega)]
        rfl
      rw [parseCalls, missing]
      simp
  | succ fuel ih =>
      rw [parseCalls]
      split
      · simp
      rename_i start found
      split
      · simp [invalid]
      rename_i stop ended
      have first := find_from found
      have second := find_from ended
      have mark : callClose.length = 12 := rfl
      dsimp only
      generalize strip whitespace (slice whole (start + callMark.length) stop) = block
      cases read : parseBlock python block with
      | error error =>
          intro same
          cases same
          exact block_finishes read
      | ok answer =>
          obtain ⟨name, arguments⟩ := answer
          exact ih (by omega)

theorem parse_finishes (text : List Char) :
    parseToolOutput python text requestId ≠ .error .unfinished := by
  have finishes := @calls_finish python requestId (visibleText text) 0 (visibleText text).length
    [] [] (by omega)
  unfold parseToolOutput
  dsimp only
  cases read : parseCalls python requestId ((visibleText text).length + 1) (visibleText text) 0
      [] [] with
  | error error =>
      intro same
      cases same
      exact finishes read
  | ok answer => exact nofun

end Reading

section Results

/-- A Python whose texts are no JSON, and which writes objects without fields. -/
def plainPython : Python := ⟨fun _ => .decodeError, fun _ => "{}".toList⟩

/-- A call without parameters, alone. -/
def emptyOutput : Output where
  first := ⟨[], by decide⟩
  rest := [(⟨[], ['f'], [], [], [], by simp, by decide +kernel, by decide⟩, ⟨[], by decide⟩)]

def emptyText : List Char := "<tool_call><function=f></function></tool_call>".toList

/-- A value with `</think>` in it. -/
def thinkOutput : Output where
  first := ⟨[], by decide⟩
  rest := [(⟨[], ['f'], [⟨[], ['p'], thinkClose, by simp, by decide +kernel, by decide,
    by decide⟩], [], [], by simp, by decide +kernel, by decide⟩, ⟨[], by decide⟩)]

def lostBlock : List Char := "<function=f></function>lost".toList

def lostText : List Char := callMark ++ (lostBlock ++ callClose)

end Results

end Q38.ToolParsing
