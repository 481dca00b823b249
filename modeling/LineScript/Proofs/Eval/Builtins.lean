import LineScript.Builtin.Run
import LineScript.Proofs.Eval.Calls
import LineScript.Proofs.Sorting.Composition

/-!
# What built-in functions are made of

Every built-in function is made of changes and of questions to a runner (`acts_native`). All of them let
the escapes of nested code pass, but for sorting by a comparator, which looks at each of them and throws it
at its end.
-/

set_option autoImplicit false

namespace LineScript

section

variable {E : Type} {fits : Code → Prop} {asks : FrameId → (α : Type) → (E → Eval α) → Prop} {manner : Manner}
  {scope : FrameId}

/-! ## Arguments -/

theorem acts_payloadOf? (value : Value) : Does fits asks manner scope fun _ => Eval.payloadOf? value := by
  cases value with
  | «instance» id => exact (acts_instanceAt id).bind fun _ _ => .pure trivial
  | null | number | text | boolean => exact .pure trivial

theorem acts_receiver (frame : FrameId) : Does fits asks manner scope fun _ => Eval.receiver frame :=
  .read fun _ _ => .pure trivial

theorem acts_instanceReceiver (value : Value) : Does fits asks manner scope fun _ => Eval.instanceReceiver value := by
  cases value with
  | «instance» id => exact .pure trivial
  | null | number | text | boolean => exact .throw _

theorem acts_textReceiver (function : String) (receiver : Value) :
    Does fits asks manner scope fun _ => Eval.textReceiver function receiver := by
  refine (acts_payloadOf? receiver).bind fun payload _ => ?_
  cases payload with
  | none => exact acts_failDescribed _ _
  | some payload =>
    cases payload with
    | text value => exact .pure trivial
    | object | «class» | function | list => exact acts_failDescribed _ _

theorem acts_listReceiver (function : String) (receiver : Value) :
    Does fits asks manner scope fun _ => Eval.listReceiver function receiver := by
  refine (acts_payloadOf? receiver).bind fun payload _ => ?_
  cases payload with
  | none => exact acts_failDescribed _ _
  | some payload =>
    cases payload with
    | list cell => exact .pure trivial
    | object | «class» | function | text => exact acts_failDescribed _ _

theorem acts_integerArgument (function : String) (value : Value) :
    Does fits asks manner scope fun _ => Eval.integerArgument function value := by
  cases value with
  | number x =>
    simp only [Eval.integerArgument]
    cases Number.truncate? x with
    | none => exact acts_failDescribed _ _
    | some n => exact .pure trivial
  | null | text | boolean | «instance» => exact acts_failDescribed _ _

theorem acts_integerOr (function : String) (default : Int) (value : Value) :
    Does fits asks manner scope fun _ => Eval.integerOr function default value := by
  cases value with
  | null => exact .pure trivial
  | number value => exact acts_integerArgument function (.number value)
  | text value => exact acts_integerArgument function (.text value)
  | boolean value => exact acts_integerArgument function (.boolean value)
  | «instance» id => exact acts_integerArgument function (.instance id)

theorem acts_textArgument (function : String) (value : Value) :
    Does fits asks manner scope fun _ => Eval.textArgument function value := by
  cases value with
  | text value => exact .pure trivial
  | null | number | boolean | «instance» => exact acts_failDescribed _ _

theorem acts_indexArgument (function : String) (length : Nat) (value : Value) :
    Does fits asks manner scope fun _ => Eval.indexArgument function length value :=
  (acts_integerArgument function value).bind fun _ _ => .ite (.pure trivial) (.throw _)

theorem acts_repeated (count : Int) (value : Value) : Does fits asks manner scope fun _ => Eval.repeated count value :=
  .ite (.throw _) (.ite (.throw _) (.pure trivial))

/-! ## Functions without callbacks -/

/-- The built-in function makes its receiver into something else. -/
def Native.overwrites : Native → Bool
  | .textMethod .init | .listMethod .init => true
  | _ => false

/-- A manner permits a built-in function: sorting looks at escapes, and some functions change what their
receiver is. -/
structure Manner.Permits (manner : Manner) (native : Native) : Prop where
  inspects : native = .listMethod .sort → manner.inspects = true
  overwrites : native.overwrites = true → manner.overwrites = true

theorem acts_typeName (value : Value) : Does fits asks manner scope fun _ => typeName value := by
  cases value with
  | null => exact .throw _
  | «instance» id => exact (acts_classOf id).bind fun _ _ => .pure trivial
  | number | text | boolean => exact .pure trivial

theorem acts_carriedName (value : Value) : Does fits asks manner scope fun _ => carriedName value := by
  refine (acts_payloadOf? value).bind fun payload _ => ?_
  cases payload with
  | none => exact .throw _
  | some payload =>
    cases payload with
    | «class» | function => exact .pure trivial
    | object | list | text => exact .throw _

theorem acts_classMethod (method : ClassMethod) : Does fits asks manner scope fun _ => method.run scope := by
  cases method with
  | name => exact (acts_receiver scope).bind fun this _ => acts_carriedName this
  | parents =>
    refine (acts_receiver scope).bind fun this _ => (acts_payloadOf? this).bind fun payload _ => ?_
    cases payload with
    | none => exact .throw _
    | some payload =>
      cases payload with
      | «class» node => exact acts_newList _ _
      | object | function | list | text => exact .throw _

theorem acts_numberFunction (function : NumberFunction) : Does fits asks manner scope fun _ => function.run scope := by
  refine (acts_argument scope "value").bind fun value _ => ?_
  cases function with
  | parseFloat => exact (acts_textOf value).bind fun _ _ => .pure trivial
  | parseInt =>
    refine (acts_textOf value).bind fun text _ => (acts_argument scope "radix").bind fun radix _ => ?_
    refine (acts_integerOr _ _ radix).bind fun radix _ => ?_
    cases Number.parseInt text.toList radix with
    | ok result => exact .pure trivial
    | error reason => exact .throw _
  | isNaN | isFinite | isInteger => exact .pure trivial

theorem acts_propertyOrNull (id : InstanceId) (name : String) :
    Does fits asks manner scope fun _ => propertyOrNull id name :=
  (acts_instanceAt id).bind fun _ _ => .pure trivial

theorem acts_exceptionText (id : InstanceId) : Does fits asks manner scope fun _ => exceptionText id := by
  refine (acts_propertyOrNull id "message").bind fun message _ => (acts_classOf id).bind fun node _ => ?_
  exact .ite (.pure trivial) ((acts_textOf message).bind fun _ _ => .pure trivial)

theorem acts_elementEntry (properties : Bindings Value) (name : String) :
    Does fits asks manner scope fun _ => elementEntry properties name := by
  simp only [elementEntry]
  cases properties.get? name with
  | some value => exact acts_textOf value
  | none => exact .throw _

theorem acts_elementLine (element : Value) : Does fits asks manner scope fun _ => elementLine element := by
  refine (acts_instanceReceiver element).bind fun id _ => (acts_instanceAt id).bind fun object _ => ?_
  refine (acts_elementEntry object.properties _).bind fun file _ => ?_
  refine (acts_elementEntry object.properties _).bind fun line _ => ?_
  exact (acts_elementEntry object.properties _).bind fun statement _ => .pure trivial

theorem acts_elementLines (id : InstanceId) : Does fits asks manner scope fun _ => elementLines id := by
  refine (acts_instanceAt id).bind fun object _ => ?_
  cases object.properties.get? "stackTraceElements" with
  | none => exact .pure trivial
  | some elements =>
    refine (acts_listReceiver _ elements).bind fun cell _ => (acts_itemsAt cell).bind fun items _ => ?_
    exact .mapM fun element => acts_elementLine element

theorem acts_createList : Does fits asks manner scope fun _ => runCreateList scope := by
  refine (acts_argument scope "length").bind fun length _ => (acts_integerArgument _ length).bind fun count _ => ?_
  refine (acts_argument scope "value").bind fun value _ => (acts_repeated count value).bind fun items _ => ?_
  exact acts_newList scope items

theorem acts_become {id : InstanceId} {payload : Payload} (plain : ∀ fits, payload.Fits fits)
    (overwrites : manner.overwrites = true) :
    Does fits asks manner scope fun _ => (modify fun store => store.setPayload id payload : Eval Unit) :=
  .step fun _ => .become id plain (.inl overwrites)

/-- A method of texts; only the one that makes a text changes its receiver. -/
theorem acts_textMethod (method : TextMethod) (overwrites : method = .init → manner.overwrites = true) :
    Does fits asks manner scope fun _ => method.run scope := by
  refine (acts_receiver scope).bind fun this _ => ?_
  have argument (name : String) : Does fits asks manner scope fun _ => Eval.argument scope name :=
    acts_argument scope name
  cases method with
  | init =>
    refine (argument "value").bind fun value _ => ?_
    cases this with
    | «instance» id =>
      have rest (content : String) : Does fits asks manner scope fun _ => (do
          modify fun store => store.setPayload id (.text content)
          return Value.null) :=
        (acts_become (by simp [Payload.Fits]) (overwrites rfl)).bind fun _ _ => .pure trivial
      exact .ite (rest "") ((acts_textOf value).bind fun content _ => rest content)
    | null | number | text | boolean =>
      exact .ite (.pure trivial) ((acts_textOf value).bind fun _ _ => .pure trivial)
  | length | toUpperCase | toLowerCase | trim | toString =>
    exact (acts_textReceiver _ this).bind fun _ _ => .pure trivial
  | charAt =>
    refine (acts_textReceiver _ this).bind fun content _ => (argument "index").bind fun index _ => ?_
    exact (acts_integerOr _ _ index).bind fun _ _ => .pure trivial
  | indexOf =>
    refine (acts_textReceiver _ this).bind fun content _ => (argument "sub").bind fun part _ => ?_
    refine (acts_textArgument _ part).bind fun part _ => (argument "start").bind fun start _ => ?_
    exact (acts_integerOr _ _ start).bind fun _ _ => .pure trivial
  | substring =>
    refine (acts_textReceiver _ this).bind fun content _ => (argument "start").bind fun start _ => ?_
    refine (acts_integerOr _ _ start).bind fun start _ => (argument "end").bind fun stop _ => ?_
    exact (acts_integerOr _ _ stop).bind fun _ _ => .pure trivial
  | startsWith | endsWith =>
    refine (acts_textReceiver _ this).bind fun content _ => (argument _).bind fun part _ => ?_
    exact (acts_textArgument _ part).bind fun _ _ => .pure trivial
  | includes =>
    refine (argument "sub").bind fun part _ => (acts_textArgument _ part).bind fun part _ => ?_
    exact (acts_textReceiver _ this).bind fun _ _ => .pure trivial
  | split =>
    refine (acts_textReceiver _ this).bind fun content _ => (argument "separator").bind fun separator _ => ?_
    exact .ite (acts_newList _ _) ((acts_textArgument _ separator).bind fun _ _ => acts_newList _ _)

/-! ## Functions that call others -/

variable {run : E → Runner} (calls : AsksRuns fits asks manner run)

include calls

theorem acts_globalFunction (function : GlobalFunction) :
    Does fits asks manner scope fun env => function.run (run env) scope := by
  cases function with
  | print =>
    refine (acts_argument scope "value").bind fun value _ => (acts_display calls scope value).bind fun text _ => ?_
    exact (acts_output text).bind fun _ _ => .pure trivial
  | println =>
    refine (acts_argument scope "value").bind fun value _ => ?_
    have rest : Does fits asks manner scope fun _ => (do Eval.output "\n"; return Value.null) :=
      (acts_output "\n").bind fun _ _ => .pure trivial
    exact .ite ((acts_display calls scope value).bind fun text _ => (acts_output text).bind fun _ _ => rest) rest
  | input =>
    refine (acts_argument scope "prompt").bind fun prompt _ => ?_
    have rest (shown : String) : Does fits asks manner scope fun _ => (do
        return Value.text (← Eval.input shown)) := (acts_input shown).bind fun _ _ => .pure trivial
    exact .ite (rest "") ((acts_textOf prompt).bind fun shown _ => rest shown)
  | hasValue | noValue => exact (acts_argument scope "value").bind fun _ _ => .pure trivial
  | typeof =>
    exact (acts_argument scope "value").bind fun value _ => (acts_typeName value).bind fun _ _ => .pure trivial
  | currentTimeMillis => exact .read fun _ _ => .pure trivial
  | loadedModules =>
    have visible : Does fits asks manner scope fun _ => visibleModules scope := .read fun _ _ => .pure trivial
    exact visible.bind fun _ _ => acts_newList _ _

theorem acts_functionMethod (method : FunctionMethod) :
    Does fits asks manner scope fun env => method.run (run env) scope := by
  cases method with
  | name => exact (acts_receiver scope).bind fun this _ => acts_carriedName this
  | apply =>
    refine (acts_argument scope "args").bind fun list _ => ?_
    have rest (items : Array Value) : Does fits asks manner scope fun env => (do
        Eval.callValue (run env) scope (← Eval.receiver scope) items.toList none) :=
      (acts_receiver scope).bind fun this _ => acts_callValue calls scope this _ none
    refine .ite (rest #[]) ((acts_listReceiver _ list).bind fun cell _ => ?_)
    exact (acts_itemsAt cell).bind fun items _ => rest items

theorem acts_exceptionMethod (method : ExceptionMethod) :
    Does fits asks manner scope fun env => method.run (run env) scope := by
  refine (acts_receiver scope).bind fun this _ => ?_
  cases method with
  | init =>
    refine (acts_instanceReceiver this).bind fun id _ => (acts_argument scope "message").bind fun message _ => ?_
    refine (acts_setProperty id _ message).bind fun _ _ => (acts_newList scope #[]).bind fun list _ => ?_
    exact (acts_setProperty id _ list).bind fun _ _ => .pure trivial
  | getMessage => exact (acts_instanceReceiver this).bind fun id _ => acts_propertyOrNull id "message"
  | toString =>
    refine (acts_instanceReceiver this).bind fun id _ => ?_
    exact (acts_exceptionText id).bind fun _ _ => .pure trivial
  | printStackTrace =>
    refine (acts_display calls scope this).bind fun shown _ => (acts_instanceReceiver this).bind fun id _ => ?_
    refine (acts_elementLines id).bind fun lines _ => ?_
    exact (acts_output _).bind fun _ _ => .pure trivial

theorem acts_formatText : Does fits asks manner scope fun env => runFormatText (run env) scope := by
  refine (acts_argument scope "template").bind fun template _ => ?_
  refine (acts_textArgument _ template).bind fun template _ => (acts_argument scope "arguments").bind fun list _ => ?_
  refine (acts_listReceiver _ list).bind fun cell _ => (acts_itemsAt cell).bind fun items _ => ?_
  refine (Acts.mapM fun item => acts_display calls scope item).bind fun shown _ => ?_
  simp only [filled]
  cases Text.fillTemplate template shown with
  | ok value => exact .pure trivial
  | error reason => cases reason <;> exact .throw _

/-! ## Lists -/

theorem acts_displayItems (cell : CellId) (steps position : Nat) (shown : List String) :
    Does fits asks manner scope fun env => displayItems (run env) scope cell steps position shown := by
  induction steps generalizing position shown with
  | zero => exact .throw _
  | succ steps ih =>
    refine (acts_itemsAt cell).bind fun items _ => ?_
    cases items[position]? with
    | none => exact .pure trivial
    | some item => exact (acts_display calls scope item).bind fun text _ => ih _ _

omit calls

section

variable {call : E → Value → Eval Value} (each : ∀ item, Does fits asks manner scope fun env => call env item)

include each

theorem acts_mapItems (items : List Value) : Does fits asks manner scope fun env => mapItems (call env) items := by
  induction items with
  | nil => exact .pure trivial
  | cons item items ih => exact (each item).bind fun _ _ => ih.bind fun _ _ => .pure trivial

theorem acts_filterItems (items : List Value) :
    Does fits asks manner scope fun env => filterItems (call env) items := by
  induction items with
  | nil => exact .pure trivial
  | cons item items ih => exact (each item).bind fun _ _ => ih.bind fun _ _ => .pure trivial

theorem acts_visitItems (items : List Value) : Does fits asks manner scope fun env => visitItems (call env) items := by
  induction items with
  | nil => exact .pure trivial
  | cons item items ih => exact (each item).bind fun _ _ => ih

theorem acts_findItem (wanted : Bool) (items : List Value) :
    Does fits asks manner scope fun env => findItem (call env) wanted items := by
  induction items with
  | nil => exact .pure trivial
  | cons item items ih => exact (each item).bind fun _ _ => .ite (.pure trivial) ih

end

theorem acts_sortByKey (cell : CellId) : Does fits asks manner scope fun _ => sortByKey cell := by
  have key (item : Value) : Does fits asks manner scope fun _ => sortKey item := by
    cases item with
    | number | boolean | text => exact .pure trivial
    | null | «instance» => exact acts_failDescribed _ _
  refine (acts_itemsAt cell).bind fun items _ => (Acts.mapM key).bind fun keys _ => ?_
  exact (acts_modifyItems cell _).bind fun _ _ => .ite (.throw _) (.pure trivial)

theorem ComparatorState.bind_apply {α β : Type} (action : StateT ComparatorState Eval α)
    (next : α → StateT ComparatorState Eval β) (state : ComparatorState) (store : Store) :
    (action >>= next).run state store = match action.run state store with
      | .ok (value, state) after => (next value).run state after
      | .error escape after => .error escape after := by
  change (action.run state >>= fun result => (next result.1).run result.2) store = _
  rw [Eval.bind_apply]
  cases action.run state store <;> rfl

theorem tried_apply {α : Type} (action : Eval α) (store : Store) :
    tried action store = match action store with
      | .ok value after => .ok (.ok value) after
      | .error escape after => .ok (.error escape) after := by
  rw [tried, Eval.tryCatch_apply, Eval.bind_apply]
  cases action store <;> rfl

/-- The question to a comparator that has not escaped yet. -/
theorem askComparator_apply (call : Value → Value → Eval Value) (left right : Value) (store : Store) :
    (askComparator call left right).run.run .asking store = match call left right store with
      | .ok value after => .ok (comparatorAnswer (.ok value)) after
      | .error escape after => .ok (comparatorAnswer (.error escape)) after := by
  change (tried (call left right) >>= fun result => Pure.pure (comparatorAnswer result)) store = _
  rw [Eval.bind_apply, tried_apply]
  cases call left right store <;> rfl

theorem sortByComparator_apply (call : Value → Value → Eval Value) (cell : CellId) (store : Store) :
    sortByComparator call cell store =
      ((Sorting.sort (askComparator call) (store.cell cell).toList).run .asking >>= fun result =>
        endSort cell result.1 result.2) (store.modifyCell cell fun _ => #[]) :=
  rfl

/-- At the end of a sort the list has items again, and what ended the questions comes out, unless the list had items
meanwhile. -/
theorem endSort_apply (cell : CellId) (arrangement : Sorting.Arrangement Value) (state : ComparatorState)
    (store : Store) :
    let filled := store.modifyCell cell fun _ => arrangement.items.toArray
    endSort cell arrangement state store = match state with
      | .stopped escape => .error escape filled
      | .thrown exception =>
        .error (if (store.cell cell).isEmpty then .thrown exception else .fault .listChanged) filled
      | .asking => if (store.cell cell).isEmpty then .ok () filled else .error (.fault .listChanged) filled := by
  cases state with
  | stopped escape => rfl
  | thrown exception =>
    change (if !(store.cell cell).isEmpty then Eval.fault .listChanged else throw (.thrown exception) : Eval Unit) _ = _
    cases (store.cell cell).isEmpty <;> rfl
  | asking =>
    change (if !(store.cell cell).isEmpty then Eval.fault .listChanged else pure () : Eval Unit) _ = _
    cases (store.cell cell).isEmpty <;> rfl

theorem ListMethod.run_sort (engine : Engine) (scope : FrameId) :
    ListMethod.run engine scope .sort = (do
      let this ← Eval.receiver scope
      let cell ← Eval.listReceiver ListMethod.sort.label this
      let comparator ← Eval.argument scope "comparator"
      if isNull comparator then sortByKey cell
      else sortByComparator (fun left right => Eval.callValue engine.run scope comparator [left, right] none) cell
      return this) :=
  rfl

theorem acts_tried {α : Type} {action : E → Eval α} (acts : Does fits asks manner scope action)
    (inspects : manner.inspects = true) : Does fits asks manner scope fun env => tried (action env) :=
  .inspect inspects (acts.bind fun _ _ => .pure trivial) fun _ => .pure trivial

theorem acts_endSort (inspects : manner.inspects = true) (cell : CellId) (arrangement : Sorting.Arrangement Value)
    (state : ComparatorState) : Does fits asks manner scope fun _ => endSort cell arrangement state := by
  refine (acts_itemsAt cell).bind fun found _ => (acts_modifyItems cell _).bind fun _ _ => ?_
  cases state with
  | stopped escape => exact .throw _ (.inl inspects)
  | thrown exception => exact .ite (.throw _ (.inl inspects)) (.throw _ (.inl inspects))
  | asking => exact .ite (.throw _) (.pure trivial)

/-- An action of sorting is made of changes and questions, whatever state the comparator is in. -/
structure SortActs (fits : Code → Prop) (asks : FrameId → (α : Type) → (E → Eval α) → Prop) (manner : Manner)
    (scope : FrameId) (β : Type) (action : E → StateT ComparatorState Eval β) : Prop where
  run : ∀ state, Does fits asks manner scope fun env => (action env).run state

theorem composes_sortActs : Sorting.Composes (SortActs fits asks manner scope) where
  pure _ := ⟨fun _ => .pure trivial⟩
  bind first rest := ⟨fun state => (first.run state).bind fun result _ => (rest result.1).run result.2⟩

/-- Sorting is made of what the comparator is made of. -/
theorem acts_sortByComparator (inspects : manner.inspects = true) {call : E → Value → Value → Eval Value}
    (each : ∀ left right, Does fits asks manner scope fun env => call env left right) (cell : CellId) :
    Does fits asks manner scope fun env => sortByComparator (call env) cell := by
  have compares (left right : Value) : Sorting.Optional (SortActs fits asks manner scope) Bool fun env =>
      askComparator (call env) left right := by
    refine ⟨fun state => ?_⟩
    cases state with
    | asking => exact (acts_tried (each left right) inspects).bind fun _ _ => .pure trivial
    | thrown | stopped => exact .pure trivial
  refine (acts_itemsAt cell).bind fun items _ => (acts_modifyItems cell _).bind fun _ _ => ?_
  refine ((Sorting.composes_sort composes_sortActs compares items.toList).run .asking).bind fun result _ => ?_
  exact acts_endSort inspects cell result.1 result.2

include calls

/-- A method of lists; only sorting looks at escapes, and only the one that makes a list changes its receiver. -/
theorem acts_listMethod (loopSteps : Nat) (method : ListMethod) (inspects : method = .sort → manner.inspects = true)
    (overwrites : method = .init → manner.overwrites = true) :
    Does fits asks manner scope fun env => method.run ⟨run env, loopSteps⟩ scope := by
  refine (acts_receiver scope).bind fun this _ => ?_
  have argument (name : String) : Does fits asks manner scope fun _ => Eval.argument scope name :=
    acts_argument scope name
  have cell : Does fits asks manner scope fun _ => Eval.listReceiver method.label this := acts_listReceiver _ this
  have call (callee item : Value) : Does fits asks manner scope fun env =>
      Eval.callValue (run env) scope callee [item] none := acts_callValue calls scope callee [item] none
  have shown (cell : CellId) : Does fits asks manner scope fun env =>
      displayItems (run env) scope cell loopSteps 0 [] := acts_displayItems calls cell loopSteps 0 []
  cases method with
  | init =>
    refine (argument "length").bind fun length _ => (acts_integerOr _ _ length).bind fun count _ => ?_
    refine (acts_repeated count .null).bind fun items _ => ?_
    cases this with
    | «instance» id =>
      refine (Acts.step fun _ => .cell items).bind fun cell _ => ?_
      exact (acts_become (by simp [Payload.Fits]) (overwrites rfl)).bind fun _ _ => .pure trivial
    | null | number | text | boolean => exact .pure trivial
  | add =>
    refine cell.bind fun cell _ => (argument "value").bind fun value _ => ?_
    exact (acts_modifyItems cell _).bind fun _ _ => .pure trivial
  | get =>
    refine cell.bind fun cell _ => (acts_itemsAt cell).bind fun items _ => (argument "index").bind fun index _ => ?_
    exact (acts_indexArgument _ _ index).bind fun _ _ => .pure trivial
  | set =>
    refine cell.bind fun cell _ => (acts_itemsAt cell).bind fun items _ => (argument "index").bind fun index _ => ?_
    refine (acts_indexArgument _ _ index).bind fun index _ => (argument "value").bind fun value _ => ?_
    exact (acts_modifyItems cell _).bind fun _ _ => .pure trivial
  | length | isEmpty => exact cell.bind fun cell _ => (acts_itemsAt cell).bind fun _ _ => .pure trivial
  | includes | indexOf =>
    refine (acts_listReceiver _ this).bind fun cell _ => (acts_itemsAt cell).bind fun items _ => ?_
    exact (argument "value").bind fun _ _ => .pure trivial
  | join =>
    refine (argument "separator").bind fun separator _ => ?_
    have rest (separator : String) : Does fits asks manner scope fun env => (do
        let cell ← Eval.listReceiver (ListMethod.label .join) this
        let shown ← displayItems (run env) scope cell loopSteps 0 []
        return Value.text (separator.intercalate shown)) :=
      cell.bind fun cell _ => (shown cell).bind fun _ _ => .pure trivial
    exact .ite (rest ",") ((acts_textArgument _ separator).bind fun separator _ => rest separator)
  | slice =>
    refine cell.bind fun cell _ => (acts_itemsAt cell).bind fun items _ => (argument "start").bind fun first _ => ?_
    refine (acts_integerOr _ _ first).bind fun first _ => (argument "end").bind fun last _ => ?_
    exact (acts_integerOr _ _ last).bind fun _ _ => acts_newList _ _
  | reverse => exact cell.bind fun cell _ => (acts_modifyItems cell _).bind fun _ _ => .pure trivial
  | swap =>
    refine cell.bind fun cell _ => (acts_itemsAt cell).bind fun items _ => (argument "i").bind fun first _ => ?_
    refine (acts_indexArgument _ _ first).bind fun first _ => (argument "j").bind fun second _ => ?_
    refine (acts_indexArgument _ _ second).bind fun second _ => ?_
    exact (acts_modifyItems cell _).bind fun _ _ => .pure trivial
  | map =>
    refine cell.bind fun cell _ => (acts_itemsAt cell).bind fun items _ => (argument "fn").bind fun callee _ => ?_
    exact (acts_mapItems (call callee) _).bind fun _ _ => acts_newList _ _
  | filter =>
    refine cell.bind fun cell _ => (acts_itemsAt cell).bind fun items _ => (argument "fn").bind fun callee _ => ?_
    exact (acts_filterItems (call callee) _).bind fun _ _ => acts_newList _ _
  | forEach =>
    refine cell.bind fun cell _ => (acts_itemsAt cell).bind fun items _ => (argument "fn").bind fun callee _ => ?_
    exact (acts_visitItems (call callee) _).bind fun _ _ => .pure trivial
  | all | any | find =>
    refine cell.bind fun cell _ => (acts_itemsAt cell).bind fun items _ => (argument "fn").bind fun callee _ => ?_
    exact (acts_findItem (call callee) _ _).bind fun _ _ => .pure trivial
  | sort =>
    refine cell.bind fun cell _ => (argument "comparator").bind fun comparator _ => ?_
    refine .ite ((acts_sortByKey cell).bind fun _ _ => .pure trivial) ?_
    refine (acts_sortByComparator (inspects rfl) (fun left right => ?_) cell).bind fun _ _ => .pure trivial
    exact acts_callValue calls scope comparator [left, right] none
  | toString => exact cell.bind fun cell _ => (shown cell).bind fun _ _ => .pure trivial

/-- A built-in function that a manner permits. -/
theorem acts_native (scope : FrameId) (loopSteps : Nat) (native : Native) (permits : manner.Permits native) :
    Does fits asks manner scope fun env => native.run ⟨run env, loopSteps⟩ scope := by
  cases native with
  | «global» function => exact acts_globalFunction calls function
  | functionMethod method => exact acts_functionMethod calls method
  | classMethod method => exact acts_classMethod method
  | textMethod method => exact acts_textMethod method fun init => permits.overwrites (init ▸ rfl)
  | formatText => exact acts_formatText calls
  | listMethod method =>
    exact acts_listMethod calls loopSteps method (fun sort => permits.inspects (sort ▸ rfl))
      fun init => permits.overwrites (init ▸ rfl)
  | createList => exact acts_createList
  | numberFunction function => exact acts_numberFunction function
  | exceptionMethod method => exact acts_exceptionMethod calls method

end

end LineScript
