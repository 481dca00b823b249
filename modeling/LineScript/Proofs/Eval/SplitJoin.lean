import LineScript.Proofs.Eval.Callbacks

/-!
# Splitting and joining texts

The parts of a text between the occurrences of a separator give the text again when they are joined with the separator,
and none of them contains the separator. Texts that are joined with a character that none of them contains are the parts
of what comes out. So the methods of texts and of lists that split and join are inverse to each other
(`split_and_join_are_inverse`).
-/

set_option autoImplicit false

namespace LineScript

/-! ## Parts of a text -/

namespace Text

/-- Cutting at one character is what the library does. -/
theorem splitFrom_singleton (c : Char) (part cs : List Char) :
    splitFrom [c] part 0 cs = cs.splitOnPPrepend (· == c) part := by
  induction cs generalizing part with
  | nil => rfl
  | cons d rest ih =>
    rw [splitFrom, List.splitOnPPrepend_cons_eq_if]
    by_cases same : d = c
    · simp [same, ih]
    · simp [same, Ne.symm same, ih]

/-- No occurrence of the separator starts in a part in front of a text. -/
def Unmet (separator part cs : List Char) : Prop :=
  ∀ before after, part = before ++ after → after ≠ [] → ¬separator <+: after ++ cs

theorem Unmet.concat {separator part cs : List Char} {c : Char} (unmet : Unmet separator part (c :: cs))
    (none : ¬separator <+: c :: cs) : Unmet separator (part ++ [c]) cs := by
  intro before after split some
  rcases List.eq_nil_or_concat after with rfl | ⟨init, last, rfl⟩
  · exact absurd rfl some
  · rw [List.concat_eq_append, ← List.append_assoc] at split
    obtain ⟨rfl, same⟩ := List.append_inj' split rfl
    cases same
    cases init with
    | nil => exact none
    | cons => simpa using unmet before _ rfl (List.cons_ne_nil _ _)

section

variable {separator : List Char} (some : separator ≠ [])

include some

theorem intercalate_splitFrom (part : List Char) (skip : Nat) (cs : List Char) :
    splitFrom separator part skip cs ≠ [] ∧
      separator.intercalate (splitFrom separator part skip cs) = part.reverse ++ cs.drop skip := by
  fun_induction splitFrom separator part skip cs with
  | case1 => simp
  | case2 part c rest skip ih => exact ih
  | case3 part c rest starts ih =>
    obtain ⟨first, more, rfl⟩ := List.exists_cons_of_ne_nil some
    obtain ⟨after, cut⟩ := List.isPrefixOf_iff_prefix.mp starts
    obtain ⟨head, tail, parts⟩ := List.exists_cons_of_ne_nil ih.1
    obtain ⟨rfl, rfl⟩ := List.cons.inj cut
    refine ⟨List.cons_ne_nil _ _, ?_⟩
    rw [parts, List.intercalate_cons_cons, ← parts, ih.2]
    simp
  | case4 part c rest none ih => simpa using ih

theorem Unmet.not_infix {part cs : List Char} (unmet : Unmet separator part cs) : ¬separator <:+: part := by
  rintro ⟨before, after, rfl⟩
  refine unmet before (separator ++ after) (List.append_assoc ..) (by simp [some]) ?_
  rw [List.append_assoc]
  exact List.prefix_append ..

theorem not_infix_of_mem_splitFrom {part : List Char} {skip : Nat} {cs found : List Char}
    (unmet : Unmet separator part.reverse (cs.drop skip)) (member : found ∈ splitFrom separator part skip cs) :
    ¬separator <:+: found := by
  fun_induction splitFrom separator part skip cs with
  | case1 =>
    rw [List.mem_singleton.mp member]
    exact unmet.not_infix some
  | case2 part c rest skip ih => exact ih unmet member
  | case3 part c rest starts ih =>
    rcases List.mem_cons.mp member with rfl | later
    · exact unmet.not_infix some
    · exact ih (by simp +contextual [Unmet]) later
  | case4 part c rest none ih =>
    refine ih ?_ member
    rw [List.reverse_cons]
    exact unmet.concat fun starts => none (List.isPrefixOf_iff_prefix.mpr starts)

end

theorem intercalate_split (text separator : List Char) : separator.intercalate (split text separator) = text := by
  unfold split
  split
  · rename_i empty
    rw [List.isEmpty_iff.mp empty]
    induction text with
    | nil => rfl
    | cons c rest ih => cases rest <;> simp_all [List.intercalate_cons_cons]
  · rename_i some
    simpa using (intercalate_splitFrom (by simpa using some) [] 0 text).2

theorem split_intercalate {c : Char} {texts : List (List Char)} (some : texts ≠ []) (free : ∀ text ∈ texts, c ∉ text) :
    split ([c].intercalate texts) [c] = texts := by
  rw [split, if_neg (by simp), splitFrom_singleton]
  exact List.splitOn_intercalate c free some

end Text

/-! ## Methods -/

/-- A method is called in a frame for an object that holds something, with a text as the separator. -/
structure Separating (store : Store) (scope : FrameId) (payload : Payload) (separator : String) : Prop where
  object : ∃ id, store.ownBinding? scope "this" = some (.instance id) ∧ (store.object id).payload = payload
  separator_eq : store.ownBinding? scope "separator" = some (.text separator)

section

variable {store : Store} {scope : FrameId} {separator : String}

theorem split_apply {text : String} (called : Separating store scope (.text text) separator) :
    TextMethod.run scope .split store = Eval.newList scope
      (((Text.split text.toList separator.toList).map String.ofList).map Value.text).toArray store := by
  obtain ⟨⟨id, this, held⟩, bound⟩ := called
  have received : Eval.textReceiver (TextMethod.label .split) (.instance id) store = .ok text store := by
    rw [Eval.textReceiver, Eval.bind_ok (payloadOf?_apply held)]
    rfl
  rw [TextMethod.run, Eval.receiver, Eval.bind_ok (argument_apply this)]
  dsimp only
  rw [Eval.bind_ok received, Eval.bind_ok (argument_apply bound), List.map_map]
  rfl

theorem displayItems_apply {cell : CellId} {texts : List String} (items : (store.cell cell).toList = texts.map .text)
    (runner : Runner) {steps position : Nat} (inside : position ≤ texts.length)
    (enough : texts.length < steps + position) (shown : List String) :
    displayItems runner scope cell steps position shown store = .ok (shown.reverse ++ texts.drop position) store := by
  induction steps generalizing position shown with
  | zero => omega
  | succ steps ih =>
    have item : (store.cell cell)[position]? = texts[position]?.map .text := by
      rw [← Array.getElem?_toList, items, List.getElem?_map]
    rw [displayItems, Eval.bind_ok (show Eval.itemsAt cell store = .ok (store.cell cell) store from rfl), item]
    rcases Nat.eq_or_lt_of_le inside with rfl | inside
    · simp
      rfl
    · rw [List.getElem?_eq_getElem inside, List.drop_eq_getElem_cons inside]
      have rest := ih inside (by omega) (texts[position] :: shown)
      rw [List.reverse_cons, List.append_assoc] at rest
      exact rest

theorem join_apply {engine : Engine} {cell : CellId} {texts : List String}
    (called : Separating store scope (.list cell) separator) (items : (store.cell cell).toList = texts.map .text)
    (enough : texts.length < engine.loopSteps) :
    ListMethod.run engine scope .join store = .ok (.text (separator.intercalate texts)) store := by
  obtain ⟨⟨id, this, held⟩, bound⟩ := called
  have shown : displayItems engine.run scope cell engine.loopSteps 0 [] store = .ok texts store :=
    displayItems_apply items engine.run (Nat.zero_le _) enough []
  rw [ListMethod.run, Eval.receiver, Eval.bind_ok (argument_apply this)]
  dsimp only
  rw [Eval.bind_ok (argument_apply bound), if_neg (by simp [isNull])]
  change (Eval.listReceiver _ _ >>= _) store = _
  rw [Eval.bind_ok (heldList_apply held _), Eval.bind_ok shown]
  rfl

end

/-- **Splitting and joining are inverse.** A text that is split gives a list from which joining with the same separator
makes the text again, and no part contains a separator that is not empty. Texts that are joined with a character in none
of them come out when the result is split at the character. -/
theorem split_and_join_are_inverse (engine : Engine) :
    (∀ store scope text separator cls, Separating store scope (.text text) separator →
      store.builtinClass? scope "List" = some cls →
      let parts := (Text.split text.toList separator.toList).map String.ofList
      (∃ value after, TextMethod.run scope .split store = .ok value after ∧
        NewList (parts.map .text) store value after) ∧
      (separator ≠ "" → parts ≠ [] ∧ ∀ part ∈ parts, ¬separator.toList <:+: part.toList) ∧
      ∀ later inner cell, Separating later inner (.list cell) separator →
        (later.cell cell).toList = parts.map .text → parts.length < engine.loopSteps →
        ListMethod.run engine inner .join later = .ok (.text text) later) ∧
    ∀ store scope cell texts c, Separating store scope (.list cell) (String.singleton c) →
      (store.cell cell).toList = texts.map .text → texts.length < engine.loopSteps → texts ≠ [] →
      (∀ text ∈ texts, c ∉ text.toList) →
      ∃ joined, ListMethod.run engine scope .join store = .ok (.text joined) store ∧
        ∀ later inner cls, Separating later inner (.text joined) (String.singleton c) →
          later.builtinClass? inner "List" = some cls → ∃ value after, TextMethod.run inner .split later = .ok value after ∧
            NewList (texts.map .text) later value after := by
  constructor
  · intro store scope text separator cls called found parts
    refine ⟨?_, fun some => ?_, fun later inner cell again items enough => ?_⟩
    · rw [split_apply called]
      exact newList_apply found _
    · have some : separator.toList ≠ [] := by simpa using some
      simp only [parts, Text.split, List.isEmpty_iff, some, if_false, List.map_eq_nil_iff, Ne, List.forall_mem_map,
        String.toList_ofList]
      exact ⟨(Text.intercalate_splitFrom some _ _ _).1,
        fun part member => Text.not_infix_of_mem_splitFrom some (by simp +contextual [Text.Unmet]) member⟩
    · have joined : separator.intercalate parts = text := by
        rw [← String.toList_inj]
        simp [parts, String.toList_intercalate, Text.intercalate_split]
      rw [join_apply again items enough, joined]
  · intro store scope cell texts c called items enough some free
    refine ⟨_, join_apply called items enough, fun later inner cls again found => ?_⟩
    have parts : Text.split ([c].intercalate (texts.map String.toList)) [c] = texts.map String.toList :=
      Text.split_intercalate (by simpa using some) (by simpa using free)
    have texts_eq : (texts.map String.toList).map String.ofList = texts := by simp
    rw [split_apply again, String.toList_intercalate, String.toList_singleton, parts, texts_eq]
    exact newList_apply found _

/-- The store of a call `text.split(";")` and of a call `list.join(";")` of its list, where the text has two parts. -/
def Store.splitting : Store :=
  let origin : Origin := ⟨"main.toy", [], [("List", ⟨0⟩)], true⟩
  { Store.initial .default ⟨[], []⟩ [] 0 with
    frames := #[⟨[], [("this", .instance ⟨1⟩), ("separator", .text ";")], origin⟩,
      ⟨[], [("this", .instance ⟨2⟩), ("separator", .text ";")], origin⟩],
    instances := #[⟨⟨0⟩, [], .class (BuiltinClass.node .list)⟩, ⟨⟨0⟩, [], .text "one;two"⟩] }

theorem split_and_join_are_inverse_of_two_parts : ∃ value after,
    TextMethod.run ⟨0⟩ .split Store.splitting = .ok value after ∧
    ListMethod.run ⟨runCode 10 5, 10⟩ ⟨1⟩ .join after = .ok (.text "one;two") after := by
  obtain ⟨⟨value, after, run, list⟩, -, joins⟩ := (split_and_join_are_inverse ⟨runCode 10 5, 10⟩).1 Store.splitting ⟨0⟩
    "one;two" ";" ⟨0⟩ ⟨⟨⟨1⟩, rfl, rfl⟩, rfl⟩ rfl
  refine ⟨value, after, run, joins after ⟨1⟩ ⟨0⟩ ⟨⟨⟨2⟩, ?_, list.payload⟩, ?_⟩ list.items_eq (by decide)⟩ <;>
    (rw [Store.ownBinding?, Store.frame, list.frames]; rfl)

end LineScript
