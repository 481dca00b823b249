import LineScript.Proofs.Expression.Layout
import LineScript.Proofs.Expression.Leaves
import LineScript.Proofs.Expression.Reading
import LineScript.Proofs.Expression.StackMachine

/-!
# Outcomes of reading

The table of leaves that reading starts with decides neither whether a text is read, nor what is read, nor how reading
fails, nor which leaves are added. `Logs good bad reader` says so, and that what is read is good for the leaves and that the
failure is bad; it composes along the steps of a reader. `Settles` is the same where the leaves do not matter.

Whatever text an expression is read from, the outcome is settled (`logs_readNested`): a tree built up from the leaves that
are added, or a cause that is reported at the site, or a character of the text that the language has no use for. What the
text of an operand looks like that is read, in terms of the texts inside it, is said by `Formed`. A property of texts that
carries over from the texts inside the operands to the whole holds of every text that is read.
-/

set_option autoImplicit false

namespace LineScript.Expression

open LineScript.Text LineScript.Source LineScript.Number

/-! ## Settled readers -/

section

variable {α β : Type} {good : α → List Leaf → Prop} {bad : ReadError → Prop}

/-- The reader fails with the error, whatever the table is. -/
def Fails (reader : ReadM α) (error : ReadError) : Prop :=
  Leads reader (throw error)

/-- A reader that fails goes no further. -/
theorem Fails.bind {reader : ReadM α} {error : ReadError} (fails : Fails reader error) (next : α → ReadM β) :
    Fails (reader >>= next) error := by
  intro table
  obtain ⟨table', equal⟩ := fails table
  refine ⟨table', ?_⟩
  rw [show (reader >>= next) table = EStateM.bind reader next table from rfl, EStateM.bind, equal]
  rfl

/-- With every table the reader adds the same leaves, and it gives a value that is good for them, or it fails with a bad
error. -/
def Logs (good : α → List Leaf → Prop) (bad : ReadError → Prop) (reader : ReadM α) : Prop :=
  ∃ added, (∃ value, good value added ∧ ∀ table, reader table = .ok value (table.addAll added)) ∨
    ∃ error, bad error ∧ ∀ table, reader table = .error error (table.addAll added)

theorem Logs.pure {value : α} (holds : good value []) : Logs good bad (Pure.pure value) :=
  ⟨[], .inl ⟨value, holds, fun _ => rfl⟩⟩

theorem Logs.throw {error : ReadError} (holds : bad error) : Logs good bad (MonadExcept.throw error : ReadM α) :=
  ⟨[], .inr ⟨error, holds, fun _ => rfl⟩⟩

theorem Logs.bind {holds : β → List Leaf → Prop} {reader : ReadM α} {next : α → ReadM β} (first : Logs good bad reader)
    (rest : ∀ value added, good value added → Logs (fun result more => holds result (added ++ more)) bad (next value)) :
    Logs holds bad (reader >>= next) := by
  obtain ⟨added, ⟨value, here, reads⟩ | ⟨error, here, fails⟩⟩ := first
  · obtain ⟨more, ⟨result, there, reads'⟩ | ⟨error, there, fails⟩⟩ := rest value added here
    · refine ⟨added ++ more, .inl ⟨result, there, fun table => ?_⟩⟩
      simp only [Bind.bind, EStateM.bind, reads, reads', Interner.addAll_append]
    · refine ⟨added ++ more, .inr ⟨error, there, fun table => ?_⟩⟩
      simp only [Bind.bind, EStateM.bind, reads, fails, Interner.addAll_append]
  · exact ⟨added, .inr ⟨error, here, fun table => by simp only [Bind.bind, EStateM.bind, fails]⟩⟩

theorem Logs.mono {other : α → List Leaf → Prop} {worse : ReadError → Prop} {reader : ReadM α} (logs : Logs good bad reader)
    (better : ∀ value added, good value added → other value added) (wider : ∀ error, bad error → worse error) :
    Logs other worse reader := by
  obtain ⟨added, ⟨value, holds, reads⟩ | ⟨error, holds, fails⟩⟩ := logs
  · exact ⟨added, .inl ⟨value, better value added holds, reads⟩⟩
  · exact ⟨added, .inr ⟨error, wider error holds, fails⟩⟩

end

section

variable {α β : Type} {good : α → Prop} {bad : ReadError → Prop}

/-- The reader gives a good value with every table, or fails with a bad error with every table. -/
def Settles (good : α → Prop) (bad : ReadError → Prop) (reader : ReadM α) : Prop :=
  Logs (fun value _ => good value) bad reader

theorem Settles.pure {value : α} (holds : good value) : Settles good bad (Pure.pure value) :=
  Logs.pure holds

theorem Settles.throw {error : ReadError} (holds : bad error) : Settles good bad (MonadExcept.throw error : ReadM α) :=
  Logs.throw holds

theorem Settles.bind {holds : β → Prop} {reader : ReadM α} {next : α → ReadM β} (first : Settles good bad reader)
    (rest : ∀ value, good value → Settles holds bad (next value)) : Settles holds bad (reader >>= next) :=
  Logs.bind first fun value _ => rest value

theorem Settles.mono {other : α → Prop} {worse : ReadError → Prop} {reader : ReadM α}
    (settles : Settles good bad reader) (better : ∀ value, good value → other value)
    (wider : ∀ error, bad error → worse error) : Settles other worse reader :=
  Logs.mono settles (fun value _ => better value) wider

theorem Settles.mapM {holds : β → Prop} {read : α → ReadM β} {items : List α}
    (each : ∀ item ∈ items, Settles holds bad (read item)) :
    Settles (fun values => ∀ value ∈ values, holds value) bad (items.mapM read) := by
  induction items with
  | nil => exact .pure (by simp)
  | cons item items ih =>
    rw [List.mapM_cons]
    refine (each item (.head _)).bind fun value first => ?_
    refine (ih fun other member => each other (List.mem_cons_of_mem item member)).bind fun values rest => ?_
    exact .pure (List.forall_mem_cons.mpr ⟨first, rest⟩)

/-- What is read with one table is read with every table. -/
theorem Settles.reads {reader : ReadM α} {value : α} {table table' : Interner} (settles : Settles good bad reader)
    (accepted : reader table = .ok value table') : good value ∧ Reads reader value := by
  obtain ⟨added, ⟨other, holds, reads⟩ | ⟨error, _, fails⟩⟩ := settles
  · cases accepted.symm.trans (reads table)
    exact ⟨holds, fun table => ⟨_, reads table⟩⟩
  · cases accepted.symm.trans (fails table)

/-- A reader that gives no value fails with a bad error. -/
theorem Settles.error_of_not_ok {reader : ReadM α} {table : Interner} (settles : Settles good bad reader)
    (refused : ¬∃ value table', reader table = .ok value table') :
    ∃ error table', reader table = .error error table' ∧ bad error := by
  obtain ⟨added, ⟨value, _, reads⟩ | ⟨error, holds, fails⟩⟩ := settles
  · exact absurd ⟨value, _, reads table⟩ refused
  · exact ⟨error, _, fails table, holds⟩

end

/-! ## The form of operands -/

section

variable (holds : List Char → Prop)

/-- What follows the first part of a chain: properties, and arguments that satisfy a condition. A list of
arguments starts with a parenthesis and ends with a closing bracket of either kind. -/
inductive Suffixed : List Char → Prop where
  | nil : Suffixed []
  | call {inner after : List Char} {closing : Char} (closes : isClosing closing = true)
      (items : ∀ item ∈ splitTopLevel inner, holds item) :
      Suffixed after → Suffixed ('(' :: (inner ++ closing :: after))
  | property {name after : List Char} (named : isName name = true) :
      Suffixed after → Suffixed ('.' :: (name ++ after))

/-- The first part of a chain: a literal, a list of elements that satisfy a condition, or a name. -/
inductive Headed : List Char → Prop where
  | text {quote : Char} {body : List Char} (opens : isQuote quote = true) (raw : Raw quote body) :
      Headed (quote :: (body ++ [quote]))
  | list {inner : List Char} (items : ∀ item ∈ splitTopLevel inner, holds item) :
      Headed ('[' :: (inner ++ [']']))
  | name {name : List Char} (named : isName name = true) : Headed name

/-- The form of an operand. -/
inductive Formed : List Char → Prop where
  | text {cs : List Char} (literal : isTextLiteral cs = true) : Formed cs
  | numeral {cs : List Char} (digits : ∀ c ∈ cs, isDecimal c = true ∨ c = '.') : Formed cs
  | chain {head rest : List Char} : Headed holds head → Suffixed holds rest → Formed (head ++ rest)

theorem Headed.formed {cs : List Char} (headed : Headed holds cs) : Formed holds cs := by
  have whole := Formed.chain headed .nil
  rwa [List.append_nil] at whole

end

theorem consumed_subset (cs rest : List Char) : consumed cs rest ⊆ cs :=
  List.take_subset _ _

theorem inside_subset (cs : List Char) : inside cs ⊆ cs := by
  intro c member
  exact List.mem_of_mem_drop (List.dropLast_subset _ member)

/-- A list literal is what its brackets surround. -/
theorem eq_of_isListLiteral {cs : List Char} (literal : isListLiteral cs = true) :
    cs = '[' :: (inside cs ++ [']']) := by
  unfold isListLiteral at literal
  split at literal
  · rename_i rest
    obtain ⟨inner, rfl⟩ := List.getLast?_eq_some_iff.mp (beq_iff_eq.mp literal)
    rw [inside_bracketed]
  · cases literal

/-! ## Operands -/

section

variable {α : Type} {site : Option Site} {readInner : List Char → ReadM Expr} {bad : ReadError → Prop}
  {holds : List Char → Prop} {cs : List Char} (reported : ∀ cause, bad (.reported cause site))
  (inner : ∀ item, item ⊆ cs → Logs (fun tree added => Built tree added ∧ holds item) bad (readInner item))

theorem logs_internVariable (name : List Char) : Logs Built bad (internVariable name) :=
  ⟨[.variable (String.ofList name)], .inl ⟨_, .once _, fun _ => rfl⟩⟩

theorem logs_internLiteral {value : Literal}
    (plain : ∀ x, value = .number x → (Reading.ofFloat x).isPlain = true) : Logs Built bad (internLiteral value) :=
  ⟨[.literal (literalKey value)], .inl ⟨_, .literal plain, fun _ => rfl⟩⟩

include inner in
/-- The items in a part of the text are read one after another. -/
theorem logs_items {part : List Char} (among : part ⊆ cs) :
    Logs (fun trees added => Built (.list trees) added ∧ ∀ item ∈ splitTopLevel part, holds item) bad
      ((splitTopLevel part).mapM readInner) := by
  have each := fun item member => inner item (List.Subset.trans (subset_of_mem_splitTopLevel member) among)
  generalize splitTopLevel part = items at each ⊢
  induction items with
  | nil => exact .pure ⟨.nil, by simp⟩
  | cons item items ih =>
    rw [List.mapM_cons]
    refine (each item (.head _)).bind fun tree first built => ?_
    refine (ih fun other member => each other (List.mem_cons_of_mem item member)).bind fun trees second rest => ?_
    refine .pure ⟨?_, List.forall_mem_cons.mpr ⟨built.2, rest.2⟩⟩
    simpa using built.1.cons rest.1

include inner in
theorem logs_listLiteral {part : List Char} (among : part ⊆ cs) (literal : isListLiteral part = true) :
    Logs (fun tree added => Built tree added ∧ Headed holds part) bad (readListLiteral readInner part) := by
  refine (logs_items inner (List.Subset.trans (inside_subset part) among)).bind fun _ added items => .pure ?_
  rw [eq_of_isListLiteral literal, List.append_nil]
  exact ⟨items.1, .list items.2⟩

include reported

/-- Scanners add nothing. -/
theorem logs_liftCause (result : Except ReadCause α) :
    Logs (fun value added => added = [] ∧ result = .ok value) bad (liftCause site result) := by
  cases result with
  | ok value => exact .pure ⟨rfl, rfl⟩
  | error cause => exact .throw (reported cause)

theorem logs_textLiteral (cs : List Char) : Logs Built bad (readTextLiteral site cs) := by
  refine (logs_liftCause reported _).bind fun value added decoded => ?_
  rw [decoded.1]
  exact logs_internLiteral (by simp)

include inner in
/-- The rest of a chain is read to its end, if it is a chain at all. -/
theorem logs_suffixes {fuel : Nat} {node : Expr} {first : List Leaf} (built : Built node first) {rest : List Char}
    (enough : rest.length ≤ fuel) (among : rest ⊆ cs) :
    Logs (fun found added => ∀ tree ∈ found, Built tree (first ++ added) ∧ Suffixed holds rest) bad
      (readSuffixes site readInner fuel node rest) := by
  induction fuel generalizing node first rest with
  | zero =>
    rw [List.length_eq_zero_iff.mp (Nat.le_zero.mp enough)]
    exact .pure (by simpa using ⟨built, .nil⟩)
  | succ fuel ih =>
    rcases rest with _ | ⟨c, rest⟩
    · exact .pure (by simpa using ⟨built, .nil⟩)
    · rw [readSuffixes]
      split
      · rename_i bracket
        refine (logs_liftCause reported _).bind fun after none result => ?_
        obtain ⟨nothing, skipped⟩ := result
        obtain ⟨part, closing, _, closes, rfl⟩ := exists_group_of_skipGroup (by rw [bracket]; rfl) skipped
        have group : inside (consumed (c :: (part ++ closing :: after)) after) = part := by
          have whole : c :: (part ++ closing :: after) = (c :: (part ++ [closing])) ++ after := by simp
          rw [whole, consumed_append, inside_bracketed]
        rw [group]
        refine (logs_items inner fun d member => among (by simp [member])).bind fun arguments second items => ?_
        refine (ih (built.call items.1) ?_ fun d member => among (by simp [member])).mono
          (fun found added later tree some => ?_) fun _ => id
        · simp only [List.length_cons, List.length_append] at enough
          omega
        · rw [bracket]
          exact ⟨by simpa [nothing] using (later tree some).1, .call closes items.2 (later tree some).2⟩
      · split
        · rename_i point
          split
          · rename_i name after split
            obtain ⟨rfl, named⟩ := splitName?_eq_some split
            refine (ih (built.property _) ?_ fun d member => among (by simp [member])).mono
              (fun found added later tree some => ?_) fun _ => id
            · simp only [List.length_cons, List.length_append] at enough
              omega
            · rw [point]
              exact ⟨(later tree some).1, .property named (later tree some).2⟩
          · exact .pure (by simp)
        · exact .pure (by simp)

include inner in
/-- The first part of a chain is a part of the text. -/
theorem logs_head :
    Logs (fun found added => ∀ part ∈ found, Built part.1 added ∧ ∃ head, cs = head ++ part.2 ∧ Headed holds head) bad
      (readHead site readInner cs) := by
  rcases cs with _ | ⟨c, rest⟩
  · exact .pure (by simp)
  · rw [readHead]
    split
    · rename_i opens
      refine (logs_liftCause reported _).bind fun after none result => ?_
      obtain ⟨nothing, passed⟩ := result
      refine (logs_textLiteral reported _).bind fun head added built => .pure ?_
      split at passed
      · rename_i next passes
        cases passed
        obtain ⟨body, raw, rfl⟩ := exists_raw_of_skipText passes
        rintro part ⟨⟩
        exact ⟨by simpa [nothing] using built, c :: (body ++ [c]), by simp, .text opens raw⟩
      · cases passed
    · split
      · rename_i bracket
        refine (logs_liftCause reported _).bind fun after none result => ?_
        obtain ⟨nothing, skipped⟩ := result
        split
        · rename_i literal
          refine (logs_listLiteral inner (consumed_subset _ _) literal).bind fun head added read => .pure ?_
          obtain ⟨built, headed⟩ := read
          obtain ⟨part, closing, _, _, rfl⟩ := exists_group_of_skipGroup (by rw [bracket]; rfl) skipped
          have whole : c :: (part ++ closing :: after) = (c :: (part ++ [closing])) ++ after := by simp
          rw [whole, consumed_append] at headed
          rintro part ⟨⟩
          exact ⟨by simpa [nothing] using built, _, whole, headed⟩
        · exact .pure (by simp)
      · split
        · rename_i name after split
          obtain ⟨whole, named⟩ := splitName?_eq_some split
          refine (logs_internVariable name).bind fun head added built => .pure ?_
          rintro part ⟨⟩
          exact ⟨by simpa using built, name, whole, .name named⟩
        · exact .pure (by simp)

include inner in
theorem logs_chain :
    Logs (fun found added => ∀ tree ∈ found, Built tree added ∧ Formed holds cs) bad (readChain site readInner cs) := by
  refine (logs_head reported inner).bind fun found added headed => ?_
  split
  · exact .pure (by simp)
  · exact .pure (by simp)
  · rename_i head rest _
    obtain ⟨built, front, whole, headed⟩ := headed _ rfl
    have among : rest ⊆ cs := by
      rw [whole]
      exact List.subset_append_right _ _
    refine (logs_suffixes reported inner built (Nat.le_refl _) among).mono (fun found added later tree some => ?_) fun _ => id
    rw [whole]
    exact ⟨(later tree some).1, .chain headed (later tree some).2⟩

omit reported in
/-- A name starts a chain and is no chain. -/
theorem readChain_name {name : List Char} (named : isName name = true) :
    readChain site readInner name = (do let _ ← internVariable name; return none) := by
  have whole := splitName?_append named (show EndsWord [] by simp [EndsWord])
  rw [List.append_nil] at whole
  rcases name with _ | ⟨c, name⟩
  · cases named
  · have word : isWord c = true := name_isWord named c (by simp)
    have noQuote : isQuote c = false := (isPlain_iff.mp (plain_of_word word).1).1
    have noList : c ≠ '[' := ne_of_class word (by decide)
    rw [readChain, readHead, noQuote, if_neg (by simp), if_neg noList, whole]
    rfl

include inner in
/-- The outcome of an operand is settled if the outcomes of the expressions in it are. -/
theorem logs_operand :
    Logs (fun tree added => Built tree added ∧ Formed holds cs) bad (readOperand site readInner cs) := by
  have word {name : List Char} (same : cs = name) (named : isName name = true) : Formed holds cs :=
    same ▸ (Headed.name named).formed
  have leaf {reader : ReadM Expr} (logs : Logs Built bad reader) (formed : Formed holds cs) :
      Logs (fun tree added => Built tree added ∧ Formed holds cs) bad reader :=
    logs.mono (fun _ _ built => ⟨built, formed⟩) fun _ => id
  rw [readOperand]
  split
  · rename_i literal
    exact leaf (logs_textLiteral reported cs) (.text literal)
  · split
    · rename_i numeral found
      refine leaf (logs_internLiteral fun x same => ?_) (.numeral (digits_of_ofText? found))
      cases same
      exact isPlain_ofDecimal _ _
    · split_ifs with isTrue isFalse isNull literal name
      · exact leaf (logs_internLiteral (by simp)) (word isTrue (by decide))
      · exact leaf (logs_internLiteral (by simp)) (word isFalse (by decide))
      · exact .pure ⟨.null, word isNull (by decide)⟩
      · refine (logs_listLiteral inner (List.Subset.refl cs) literal).mono (fun _ _ built => ?_) fun _ => id
        exact ⟨built.1, built.2.formed⟩
      · rw [readChain_name name]
        exact ⟨[.variable (String.ofList cs), .variable (String.ofList cs)],
          .inl ⟨_, ⟨.twice _, word rfl name⟩, fun _ => rfl⟩⟩
      · refine (logs_chain reported inner).bind fun found added formed => ?_
        split
        · exact .pure (by simpa using formed _ rfl)
        · exact .throw (reported _)

/-- The outcome of a fold is settled if the outcomes of the operands are. -/
theorem logs_fold (text : List Char) {stack : List Expr} {first : List Leaf} (stacked : Stacked stack first)
    {items : List PostfixItem} (operands : ∀ cs, .operand cs ∈ items →
      Logs (fun tree added => Built tree added ∧ holds cs) bad (readOperand site readInner cs)) :
    Logs (fun tree added => Built tree (first ++ added) ∧ ∀ cs, .operand cs ∈ items → holds cs) bad
      (fold site readInner text stack items) := by
  fun_induction fold site readInner text stack items generalizing first with
  | case1 tree =>
    obtain _ | ⟨⟨⟩, built⟩ := stacked
    exact .pure (by simpa using built)
  | case2 | case5 | case7 => exact .throw (reported _)
  | case3 stack operand items ih =>
    refine (operands operand (.head _)).bind fun node second ⟨built, here⟩ => ?_
    refine (ih node (stacked.push built) fun cs member => operands cs (.tail _ member)).mono
      (fun tree added ⟨built, later⟩ => ⟨by simpa using built, fun cs member => ?_⟩) fun _ => id
    rcases List.mem_cons.mp member with same | member
    · cases same
      exact here
    · exact later cs member
  | case4 right left stack operator items ih =>
    obtain _ | ⟨_ | ⟨below, builtLeft⟩, builtRight⟩ := stacked
    simpa using ih (below.push (.binary operator builtLeft builtRight)) (by simpa using operands)
  | case6 operand stack operator items ih =>
    obtain _ | ⟨below, built⟩ := stacked
    simpa using ih (below.push (.unary operator built)) (by simpa using operands)

end

/-! ## Expressions -/

/-- Reading is refused: for a cause that is reported at the site, or at a character of the text that the
language has no use for. -/
def Refused (site : Option Site) (cs : List Char) (error : ReadError) : Prop :=
  (∃ cause, error = .reported cause site) ∨ ∃ c ∈ cs, isStray c = true ∧ error = .strayCharacter c

theorem Refused.reported (site : Option Site) (cs : List Char) (cause : ReadCause) :
    Refused site cs (.reported cause site) :=
  .inl ⟨cause, rfl⟩

theorem Refused.mono {site : Option Site} {part cs : List Char} (among : part ⊆ cs) {error : ReadError}
    (refused : Refused site part error) : Refused site cs error := by
  rcases refused with reported | ⟨c, member, stray, rfl⟩
  · exact .inl reported
  · exact .inr ⟨c, among member, stray, rfl⟩

theorem Laid.written_subset {tokens : List Token} {cs : List Char} (laid : Laid tokens cs) {token : Token}
    (member : token ∈ tokens) : token.written ⊆ cs := by
  induction laid with
  | nil => cases member
  | blank _ _ ih => exact List.subset_cons_of_subset _ (ih member)
  | token _ _ ih =>
    rcases List.mem_cons.mp member with rfl | later
    · exact List.subset_append_left _ _
    · exact List.subset_append_of_subset_right _ (ih later)

/-- A property that carries over from the texts inside the operands to the whole text. -/
def Hereditary (holds : List Char → Prop) : Prop :=
  ∀ cs tokens items, Laid tokens (trim cs) → toPostfix tokens = .ok items →
    (∀ operand, .operand operand ∈ items → Formed holds operand) → holds cs

/-- Whatever the text is, the outcome of reading an expression is settled, and a text that is read has every
property that carries over from parts to the whole. -/
theorem logs_readNested {holds : List Char → Prop} (hereditary : Hereditary holds) (site : Option Site) (fuel : Nat)
    (cs : List Char) :
    Logs (fun tree added => Built tree added ∧ holds cs) (Refused site cs) (readNested site fuel cs) := by
  induction fuel generalizing cs with
  | zero => exact .throw (Refused.reported site cs _)
  | succ fuel ih =>
    rw [readNested]
    split
    · exact .throw (Refused.reported site cs _)
    · cases scanned : tokenize (trim cs) with
      | error error =>
        refine ⟨[], .inr ⟨error.at site, ?_, fun _ => rfl⟩⟩
        cases error with
        | reported cause => exact .inl ⟨cause, rfl⟩
        | stray d =>
          obtain ⟨member, stray⟩ := stray_of_tokensFrom scanned
          exact .inr ⟨d, trim_subset cs member, stray, rfl⟩
      | ok tokens =>
        have laid := tokenize_laid scanned
        dsimp only
        rw [pure_bind, readTokens]
        refine (logs_liftCause (Refused.reported site cs) _).bind fun items none ⟨nothing, ordered⟩ => ?_
        have operands (operand : List Char) (member : .operand operand ∈ items) :
            Logs (fun tree added => Built tree added ∧ Formed holds operand) (Refused site cs)
              (readOperand site (readNested site fuel) operand) := by
          have among : operand ⊆ cs :=
            List.Subset.trans (laid.written_subset (mem_toPostfix ordered _ member)) (trim_subset cs)
          refine logs_operand (Refused.reported site cs) fun item inOperand => ?_
          exact (ih item).mono (fun _ _ => id) fun error refused => refused.mono (List.Subset.trans inOperand among)
        refine (logs_fold (Refused.reported site cs) _ .nil operands).mono (fun tree added read => ?_) fun _ => id
        exact ⟨by simpa [nothing] using read.1, hereditary cs tokens items laid ordered read.2⟩

theorem settles_readNested {holds : List Char → Prop} (hereditary : Hereditary holds) (site : Option Site)
    (fuel : Nat) (cs : List Char) : Settles (fun _ => holds cs) (Refused site cs) (readNested site fuel cs) :=
  (logs_readNested hereditary site fuel cs).mono (fun _ _ => And.right) fun _ => id

/-- A tree that is read is built up from the leaves that are added. -/
theorem logs_readExpr (site : Option Site) (cs : List Char) : Logs Built (Refused site cs) (readExpr site cs) :=
  (logs_readNested (fun _ _ _ _ _ _ => trivial : Hereditary fun _ => True) site _ cs).mono (fun _ _ => And.left) fun _ => id

theorem settles_operand (site : Option Site) (cs : List Char) :
    Settles (fun _ => True) (Refused site cs) (readOperand site (readExpr site) cs) := by
  have inner (item : List Char) (among : item ⊆ cs) :
      Logs (fun tree added => Built tree added ∧ True) (Refused site cs) (readExpr site item) :=
    (logs_readExpr site item).mono (fun _ _ built => ⟨built, trivial⟩) fun _ refused => refused.mono among
  exact (logs_operand (Refused.reported site cs) inner).mono (fun _ _ _ => trivial) fun _ => id

end LineScript.Expression
