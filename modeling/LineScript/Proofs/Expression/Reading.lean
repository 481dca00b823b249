import LineScript.Proofs.Expression.Scanning

/-!
# Reading operands

Reading changes the table of leaves, and a tree does not depend on it. `Leads m m'` says that whatever the
table is, `m` comes down to `m'` with some other table, and `Reads m a` that `m` gives `a`. Both compose
along the steps of a reader.

The reader of operands looks at the first and the last character of a text to tell its kind.
`Operand.reads` shows that it tells the kinds of printed operands apart and reads each of them, if the
expressions inside it are read.
-/

set_option autoImplicit false

namespace LineScript.Expression

open LineScript.Text LineScript.Source LineScript.Number

variable {items : List (List Char)} {cs blank rest : List Char} {tree : Expr} {trees : List Expr} {limit : Nat}

/-! ## Steps of reading -/

/-- With every table the first reader goes on as the second one does, with some table. -/
def Leads {α : Type} (first second : ReadM α) : Prop :=
  ∀ table, ∃ table', first table = second table'

/-- The reader gives the value with every table. -/
def Reads {α : Type} (reader : ReadM α) (value : α) : Prop :=
  Leads reader (pure value)

section

variable {α β : Type}

theorem Leads.refl (reader : ReadM α) : Leads reader reader :=
  fun table => ⟨table, rfl⟩

theorem Leads.trans {first second third : ReadM α} (start : Leads first second) (rest : Leads second third) :
    Leads first third := by
  intro table
  obtain ⟨middle, equal⟩ := start table
  obtain ⟨last, equal'⟩ := rest middle
  exact ⟨last, equal.trans equal'⟩

theorem Reads.pure (value : α) : Reads (Pure.pure value) value :=
  Leads.refl _

/-- A reader that gives a value goes on with it. -/
theorem Reads.leads {reader : ReadM α} {value : α} (reads : Reads reader value) (next : α → ReadM β) :
    Leads (reader >>= next) (next value) := by
  intro table
  obtain ⟨table', equal⟩ := reads table
  refine ⟨table', ?_⟩
  rw [show (reader >>= next) table = EStateM.bind reader next table from rfl, EStateM.bind, equal]
  rfl

theorem Reads.bind {reader : ReadM α} {value : α} {next : α → ReadM β} {result : β}
    (reads : Reads reader value) (rest : Reads (next value) result) : Reads (reader >>= next) result :=
  (reads.leads next).trans rest

/-- What is read can be turned into something else. -/
theorem Reads.map {reader : ReadM α} {value : α} (reads : Reads reader value) (change : α → β) :
    Reads (reader >>= fun a => Pure.pure (change a)) (change value) :=
  reads.bind (Reads.pure _)

/-- Items are read one after another. -/
theorem Reads.mapM {read : α → ReadM β} {items : List α} {values : List β}
    (each : List.Forall₂ (fun item value => Reads (read item) value) items values) :
    Reads (items.mapM read) values := by
  induction each with
  | nil => exact Reads.pure []
  | cons first _ ih =>
    rw [List.mapM_cons]
    exact first.bind (ih.map _)

end

theorem reads_internVariable (name : List Char) : Reads (internVariable name) (.variable (String.ofList name)) :=
  fun table => ⟨table.addVariable (String.ofList name), rfl⟩

theorem reads_internLiteral (value : Literal) : Reads (internLiteral value) (.literal value) :=
  fun table => ⟨table.addLiteral value, rfl⟩

theorem reads_liftCause {α : Type} {site : Option Site} {result : Except ReadCause α} {value : α}
    (succeeds : result = .ok value) : Reads (liftCause site result) value := by
  rw [succeeds]
  exact Reads.pure value

/-! ## Literals -/

/-- A printed text stands for the text. -/
theorem decodeBody_escaped {quote : Char} {value body : List Char} (escaped : Escaped quote value body) :
    decodeBody body = .ok value := by
  induction escaped with
  | nil => rfl
  | plain noEscape _ _ ih =>
    rw [decodeBody.eq_4 _ _ (by simp [noEscape]) (by simp [noEscape]), ih]
    rfl
  | escape stands _ ih =>
    rw [decodeBody]
    simp only [stands, ih]
    rfl

theorem inside_bracketed (opening closing : Char) (inner : List Char) :
    inside (opening :: (inner ++ [closing])) = inner := by
  rw [inside, List.drop_succ_cons, List.drop_zero, List.dropLast_concat]

theorem reads_textLiteral (site : Option Site) {value : String} (quoted : Quoted value cs) :
    Reads (readTextLiteral site cs) (.literal (.text value)) := by
  obtain ⟨opens, escaped⟩ := quoted
  have decoded := decodeBody_escaped escaped
  rw [readTextLiteral, decodeText, List.drop_succ_cons, List.drop_zero, List.dropLast_concat]
  refine (reads_liftCause decoded).bind ?_
  rw [String.ofList_toList]
  exact reads_internLiteral _

/-! ## Items -/

/-- White space around a printed text is no part of it. -/
theorem Printed.trim_eq (printed : Printed tree cs) :
    Printed tree (trim cs) ∧ trim cs ≠ [] ∧ (trim cs).length ≤ cs.length := by
  cases printed with
  | @spaced _ level tokens before core after blankBefore order spaced blankAfter =>
    have solid := order.solid spaced
    rw [trim_margins blankBefore solid blankAfter]
    refine ⟨?_, solid.ne_nil, ?_⟩
    · have bare := Printed.spaced Margin.nil order spaced Margin.nil
      rwa [List.nil_append, List.append_nil] at bare
    · simp only [List.length_append]
      omega

/-- Items in brackets are found, without the white space around them. -/
theorem splitTopLevel_itemsText (margin : Margin blank) (printed : Items trees items) :
    splitTopLevel (itemsText blank items) = items.map trim := by
  cases printed with
  | nil => exact splitTopLevel_margin margin
  | cons first rest =>
    exact splitTopLevel_intercalate (Items.cons first rest).closed (by simp [first.trim_eq.2.1])

theorem length_le_itemsText (member : cs ∈ items) : cs.length ≤ (itemsText blank items).length := by
  cases items with
  | nil => cases member
  | cons item items =>
    rw [itemsText]
    induction items generalizing item with
    | nil => rw [List.mem_singleton.mp member, List.intercalate_singleton]
    | cons next items ih =>
      rw [List.intercalate_cons_cons, List.length_append, List.length_append]
      rcases List.mem_cons.mp member with rfl | member
      · omega
      · have bound := ih next member
        omega

section

variable {site : Option Site} {readInner : List Char → ReadM Expr}

/-- Printed expressions below a length are read. -/
def ReadsBelow (limit : Nat) (readInner : List Char → ReadM Expr) : Prop :=
  ∀ {tree : Expr} {cs : List Char}, Printed tree cs → cs.length < limit → Reads (readInner cs) tree

theorem ReadsBelow.mono {bound : Nat} (reads : ReadsBelow limit readInner) (below : bound ≤ limit) :
    ReadsBelow bound readInner :=
  fun printed short => reads printed (Nat.lt_of_lt_of_le short below)

theorem Items.reads (reads : ReadsBelow limit readInner) :
    ∀ {trees : List Expr} {items : List (List Char)}, Items trees items →
      (∀ cs ∈ items, cs.length < limit) →
      List.Forall₂ (fun cs tree => Reads (readInner cs) tree) (items.map trim) trees
  | _, _, .nil, _ => .nil
  | _, _, .cons printed rest, short => by
    obtain ⟨trimmed, _, shorter⟩ := printed.trim_eq
    refine .cons (reads trimmed (Nat.lt_of_le_of_lt shorter (short _ (.head _)))) ?_
    exact rest.reads reads fun cs member => short cs (.tail _ member)

theorem reads_items (reads : ReadsBelow limit readInner) (margin : Margin blank) (printed : Items trees items)
    (short : (itemsText blank items).length < limit) :
    Reads ((splitTopLevel (itemsText blank items)).mapM readInner) trees := by
  rw [splitTopLevel_itemsText margin printed]
  exact Reads.mapM (printed.reads reads fun cs member =>
    Nat.lt_of_le_of_lt (length_le_itemsText member) short)

theorem reads_listLiteral (reads : ReadsBelow ('[' :: (itemsText blank items ++ [']'])).length readInner)
    (margin : Margin blank) (printed : Items trees items) :
    Reads (readListLiteral readInner ('[' :: (itemsText blank items ++ [']']))) (.list trees) := by
  rw [readListLiteral, inside_bracketed]
  refine (reads_items reads margin printed ?_).map _
  rw [List.length_cons, List.length_append]
  omega

/-! ## Chains -/

theorem readSuffixes_nil (fuel : Nat) (node : Expr) : readSuffixes site readInner fuel node [] = pure (some node) := by
  cases fuel <;> rfl

theorem readSuffixes_property {fuel : Nat} {node : Expr} {name : List Char} (named : isName name = true)
    (ends : EndsWord rest) :
    readSuffixes site readInner (fuel + 1) node ('.' :: (name ++ rest)) =
      readSuffixes site readInner fuel (.property node (String.ofList name)) rest := by
  rw [readSuffixes, if_neg (by decide), if_pos rfl, splitName?_append named ends]

theorem readSuffixes_call {fuel : Nat} {node : Expr} (reads : ReadsBelow limit readInner) (margin : Margin blank)
    (printed : Items trees items) (short : (itemsText blank items).length < limit) :
    Leads (readSuffixes site readInner (fuel + 1) node ('(' :: (itemsText blank items ++ ')' :: rest)))
      (readSuffixes site readInner fuel (.call node trees) rest) := by
  have skipped : skipGroup ('(' :: (itemsText blank items ++ ')' :: rest)) = .ok rest :=
    skipGroup_group rfl rfl (closed_itemsText margin printed.closed) rest
  have group : consumed ('(' :: (itemsText blank items ++ ')' :: rest)) rest =
      '(' :: (itemsText blank items ++ [')']) := by
    have whole := consumed_append ('(' :: (itemsText blank items ++ [')'])) rest
    simpa only [List.cons_append, List.append_assoc, List.nil_append] using whole
  rw [readSuffixes, if_pos rfl]
  refine ((reads_liftCause skipped).leads _).trans ?_
  rw [group, inside_bracketed]
  exact (reads_items reads margin printed short).leads _

/-- Once the head of a chain is read, its properties and calls are read. -/
theorem readChain_of_head {head : Expr} (reads : Reads (readHead site readInner cs) (some (head, rest)))
    (more : rest ≠ []) : Leads (readChain site readInner cs) (readSuffixes site readInner rest.length head rest) := by
  refine (reads.leads _).trans ?_
  cases rest with
  | nil => exact absurd rfl more
  | cons c rest => exact Leads.refl _

theorem reads_head_variable {name : List Char} (named : isName name = true) (ends : EndsWord rest) :
    Reads (readHead site readInner (name ++ rest)) (some (.variable (String.ofList name), rest)) := by
  have split := splitName?_append named ends
  cases name with
  | nil => cases named
  | cons c name =>
    simp only [isName, Bool.and_eq_true] at named
    have noQuote : isQuote c = false :=
      (isPlain_iff.mp (plain_of_word (isWord_of_isNameStart named.1)).1).1
    have noBracket : c ≠ '[' := ne_of_class named.1 (by decide)
    rw [List.cons_append] at split ⊢
    rw [readHead, noQuote]
    simp only [Bool.false_eq_true, if_false, if_neg noBracket, split]
    exact (reads_internVariable _).map _

theorem reads_head_text {value : String} (quoted : Quoted value cs) (rest : List Char) :
    Reads (readHead site readInner (cs ++ rest)) (some (.literal (.text value), rest)) := by
  have literal := reads_textLiteral site quoted
  have front := consumed_append cs rest
  obtain @⟨quote, _, body, opens, escaped⟩ := quoted
  have skipped := skipText_raw opens escaped.raw rest
  simp only [List.cons_append, List.append_assoc, List.nil_append] at front ⊢
  rw [readHead, if_pos opens, skipped]
  refine (reads_liftCause rfl).bind ?_
  rw [front]
  exact literal.map _

theorem isListLiteral_bracketed (inner : List Char) : isListLiteral ('[' :: (inner ++ [']'])) = true := by
  rw [isListLiteral, List.getLast?_concat]
  rfl

theorem reads_head_list (reads : ReadsBelow ('[' :: (itemsText blank items ++ [']'])).length readInner)
    (margin : Margin blank) (printed : Items trees items) (rest : List Char) :
    Reads (readHead site readInner ('[' :: (itemsText blank items ++ [']']) ++ rest)) (some (.list trees, rest)) := by
  have literal := reads_listLiteral reads margin printed
  have front := consumed_append ('[' :: (itemsText blank items ++ [']'])) rest
  have skipped : skipGroup ('[' :: (itemsText blank items ++ ']' :: rest)) = .ok rest :=
    skipGroup_group rfl rfl (closed_itemsText margin printed.closed) rest
  simp only [List.cons_append, List.append_assoc, List.nil_append] at front ⊢
  rw [readHead, if_neg (by decide), if_pos rfl]
  refine (reads_liftCause skipped).bind ?_
  rw [front, if_pos (isListLiteral_bracketed _)]
  exact literal.map _

theorem endsWord_of_mark {c : Char} (rest : List Char) (mark : isWord c = false) : EndsWord (c :: rest) := by
  intro d member
  cases member
  exact mark

/-- The tree ends with a property or a call. -/
def endsChain : Expr → Bool
  | .property .. | .call .. => true
  | _ => false

/-- The reader gets past a chain to the properties and calls behind it, of which there are some if the
chain has none itself. -/
theorem Chain.readChain_append : ∀ {tree : Expr} {cs : List Char}, Chain tree cs →
    ReadsBelow cs.length readInner → ∀ {rest : List Char}, EndsWord rest →
      (endsChain tree = false → rest ≠ []) → ∃ fuel, rest.length ≤ fuel ∧
        Leads (readChain site readInner (cs ++ rest)) (readSuffixes site readInner fuel tree rest)
  | _, _, .variable named, _, _, ends, more => by
    have named := (isVariableName_iff.mp named).1
    exact ⟨_, Nat.le_refl _, readChain_of_head (reads_head_variable named ends) (more rfl)⟩
  | _, _, .text quoted, _, rest, _, more =>
    ⟨_, Nat.le_refl _, readChain_of_head (reads_head_text quoted rest) (more rfl)⟩
  | _, _, .list margin printed, reads, rest, _, more =>
    ⟨_, Nat.le_refl _, readChain_of_head (reads_head_list reads margin printed rest) (more rfl)⟩
  | _, _, @Chain.property _ cs name chain named, reads, rest, ends, _ => by
    have shorter : cs.length ≤ (cs ++ '.' :: name).length := by simp
    obtain ⟨fuel, enough, leads⟩ := chain.readChain_append (reads.mono shorter)
      (endsWord_of_mark (name ++ rest) (show isWord '.' = false by decide)) fun _ => List.cons_ne_nil _ _
    rw [List.length_cons, List.length_append] at enough
    obtain ⟨fuel, rfl⟩ := Nat.exists_eq_add_one.mpr (show 0 < fuel by omega)
    rw [readSuffixes_property named ends] at leads
    refine ⟨fuel, by omega, ?_⟩
    rwa [List.append_assoc, List.cons_append]
  | _, _, @Chain.call _ cs _ items blank chain margin printed, reads, rest, _, _ => by
    have shorter : cs.length ≤ (cs ++ '(' :: (itemsText blank items ++ [')'])).length := by simp
    have short : (itemsText blank items).length < (cs ++ '(' :: (itemsText blank items ++ [')'])).length := by
      simp only [List.length_append, List.length_cons]
      omega
    obtain ⟨fuel, enough, leads⟩ := chain.readChain_append (reads.mono shorter)
      (endsWord_of_mark (itemsText blank items ++ ')' :: rest) (show isWord '(' = false by decide))
      fun _ => List.cons_ne_nil _ _
    rw [List.length_cons, List.length_append, List.length_cons] at enough
    obtain ⟨fuel, rfl⟩ := Nat.exists_eq_add_one.mpr (show 0 < fuel by omega)
    refine ⟨fuel, by omega, ?_⟩
    simp only [List.append_assoc, List.cons_append, List.nil_append]
    exact leads.trans (readSuffixes_call reads margin printed short)

/-- A chain with a property or a call is read whole. -/
theorem Chain.reads_chain (chain : Chain tree cs) (reads : ReadsBelow cs.length readInner)
    (ends : endsChain tree = true) : Reads (readChain site readInner cs) (some tree) := by
  have nothing : EndsWord [] := by simp [EndsWord]
  obtain ⟨fuel, _, leads⟩ := chain.readChain_append reads nothing fun bare => by simp [ends] at bare
  rwa [List.append_nil, readSuffixes_nil] at leads

/-! ## Operands -/

theorem ofText?_eq_none {c : Char} (noDigit : isDecimal c = false) : Numeral.ofText? (c :: rest) = none := by
  have stops : ¬isDecimal c = true := by simp [noDigit]
  have nothing : (Numeral.split (c :: rest)).1.whole = [] := by
    rw [Numeral.split, List.takeWhile_cons_of_neg stops, List.dropWhile_cons_of_neg stops]
    split
    · dsimp only
      split <;> rfl
    · rfl
  rw [Numeral.ofText?]
  split
  · rename_i numeral whole
    rw [whole] at nothing
    rw [nothing]
    rfl
  · rfl

theorem Chain.exists_cons {tree : Expr} {cs : List Char} (chain : Chain tree cs) :
    ∃ c tail, cs = c :: tail ∧ isDecimal c = false := by
  cases chain with
  | «variable» named =>
    have named := (isVariableName_iff.mp named).1
    cases cs with
    | nil => cases named
    | cons c name =>
      simp only [isName, Bool.and_eq_true] at named
      have noDigit := not_digitLike_of_isNameStart named.1
      simp only [isDigitLike, Bool.or_eq_false_iff] at noDigit
      exact ⟨c, name, rfl, noDigit.1⟩
  | text quoted =>
    obtain ⟨opens, _⟩ := quoted
    refine ⟨_, _, rfl, ?_⟩
    simp only [isQuote, Bool.or_eq_true, beq_iff_eq] at opens
    rcases opens with rfl | rfl <;> decide
  | list => exact ⟨_, _, rfl, by decide⟩
  | property chain =>
    obtain ⟨c, tail, equal, noDigit⟩ := chain.exists_cons
    exact ⟨c, _, by rw [equal, List.cons_append], noDigit⟩
  | call chain =>
    obtain ⟨c, tail, equal, noDigit⟩ := chain.exists_cons
    exact ⟨c, _, by rw [equal, List.cons_append], noDigit⟩

/-- A text of no other kind is a chain, or a variable if it is no chain. -/
theorem reads_of_chain {node : Option Expr} (noText : isTextLiteral cs = false) (noNumeral : Numeral.ofText? cs = none)
    (noWord : cs ∉ reservedWords) (noList : isListLiteral cs = false) (chain : Reads (readChain site readInner cs) node)
    (rest : node = some tree ∨ node = none ∧ isName cs = true ∧ tree = .variable (String.ofList cs)) :
    Reads (readOperand site readInner cs) tree := by
  simp only [reservedWords, List.mem_cons, List.not_mem_nil, or_false, not_or] at noWord
  obtain ⟨_, _, _, noTrue, noFalse, noNull⟩ := noWord
  rw [readOperand, noText, noNumeral, noList]
  simp only [Bool.false_eq_true, if_false, if_neg noTrue, if_neg noFalse, if_neg noNull]
  refine chain.bind ?_
  rcases rest with rfl | ⟨rfl, named, rfl⟩
  · exact Reads.pure tree
  · simp only [if_pos named]
    exact reads_internVariable cs

/-- A text that ends with another character than a quote or a square bracket is no literal. -/
theorem not_literal_of_last {d : Char} (last : cs.getLast? = some d) (noQuote : isQuote d = false)
    (noBracket : d ≠ ']') : isTextLiteral cs = false ∧ isListLiteral cs = false := by
  have other : ∀ c rest, cs = c :: rest → ∀ e, rest.getLast? = some e → e = d := by
    rintro c rest rfl e lastRest
    rw [List.getLast?_cons, lastRest, Option.getD_some] at last
    exact Option.some.inj last
  constructor
  · cases cs with
    | nil => rfl
    | cons c rest =>
      rw [isTextLiteral, Bool.and_eq_false_iff, beq_eq_false_iff_ne]
      by_contra literal
      simp only [not_or, Bool.not_eq_false, Decidable.not_not] at literal
      rw [other c rest rfl c literal.2, noQuote] at literal
      exact Bool.false_ne_true literal.1
  · rw [isListLiteral.eq_def]
    split
    · rename_i rest
      rw [beq_eq_false_iff_ne]
      exact fun lastRest => noBracket (other '[' rest rfl ']' lastRest).symm
    · rfl

theorem getLast?_name {name : List Char} (named : isName name = true) :
    ∃ d, name.getLast? = some d ∧ isQuote d = false ∧ d ≠ ']' := by
  have some := (solid_of_name named).ne_nil
  have word := name_isWord named _ (List.getLast_mem some)
  refine ⟨_, List.getLast?_eq_some_getLast some, ?_, ne_of_class word (by decide)⟩
  exact (isPlain_iff.mp (plain_of_word word).1).1

theorem reads_variable {name : List Char} (named : isVariableName name = true) :
    Reads (readOperand site readInner name) (.variable (String.ofList name)) := by
  obtain ⟨c, tail, equal, noDigit⟩ := (Chain.variable named).exists_cons
  obtain ⟨named, free⟩ := isVariableName_iff.mp named
  have nothing : EndsWord [] := by simp [EndsWord]
  have noChain : Reads (readChain site readInner name) none := by
    have head : Reads (readHead site readInner (name ++ [])) _ := reads_head_variable named nothing
    rw [List.append_nil] at head
    exact head.bind (Reads.pure none)
  have noNumeral : Numeral.ofText? name = none := by
    rw [equal]
    exact ofText?_eq_none noDigit
  obtain ⟨d, last, noQuote, noBracket⟩ := getLast?_name named
  obtain ⟨noText, noList⟩ := not_literal_of_last last noQuote noBracket
  exact reads_of_chain noText noNumeral free noList noChain (.inr ⟨rfl, named, rfl⟩)

theorem not_mem_reservedWords {c : Char} (member : c ∈ cs) (noWord : isWord c = false) : cs ∉ reservedWords := by
  intro reserved
  have words : ∀ name ∈ reservedWords, isName name = true := by decide
  rw [name_isWord (words cs reserved) c member] at noWord
  cases noWord

theorem Chain.reads (chain : Chain tree cs)
    (reads : ReadsBelow cs.length readInner) : Reads (readOperand site readInner cs) tree := by
  obtain ⟨c, tail, equal, noDigit⟩ := chain.exists_cons
  have noNumeral : Numeral.ofText? cs = none := by
    rw [equal]
    exact ofText?_eq_none noDigit
  cases chain with
  | «variable» named => exact reads_variable named
  | text quoted =>
    rw [readOperand, if_pos]
    · exact reads_textLiteral site quoted
    · obtain ⟨opens, _⟩ := quoted
      rw [isTextLiteral, opens, List.getLast?_concat]
      simp
  | @list _ items blank margin printed =>
    have noWord := not_mem_reservedWords
      (show '[' ∈ '[' :: (itemsText blank items ++ [']']) by simp) (by decide)
    simp only [reservedWords, List.mem_cons, List.not_mem_nil, or_false, not_or] at noWord
    obtain ⟨_, _, _, noTrue, noFalse, noNull⟩ := noWord
    rw [readOperand, if_neg (by simp [isTextLiteral, isQuote]), noNumeral, isListLiteral_bracketed]
    simp only [if_neg noTrue, if_neg noFalse, if_neg noNull, if_true]
    exact reads_listLiteral reads margin printed
  | @property target cs name chain named =>
    obtain ⟨d, last, noQuote, noBracket⟩ := getLast?_name named
    have last : (cs ++ '.' :: name).getLast? = some d := by
      rw [List.getLast?_append, List.getLast?_cons, last]
      rfl
    obtain ⟨noText, noList⟩ := not_literal_of_last last noQuote noBracket
    have noWord := not_mem_reservedWords (show '.' ∈ cs ++ '.' :: name by simp) (by decide)
    exact reads_of_chain noText noNumeral noWord noList ((Chain.property chain named).reads_chain reads rfl)
      (.inl rfl)
  | @call _ cs _ items blank chain margin printed =>
    have last : (cs ++ '(' :: (itemsText blank items ++ [')'])).getLast? = some ')' := by
      rw [← List.cons_append, ← List.append_assoc, List.getLast?_concat]
    obtain ⟨noText, noList⟩ := not_literal_of_last last (by decide) (by decide)
    have noWord := not_mem_reservedWords
      (show '(' ∈ cs ++ '(' :: (itemsText blank items ++ [')']) by simp) (by decide)
    exact reads_of_chain noText noNumeral noWord noList
      ((Chain.call chain margin printed).reads_chain reads rfl) (.inl rfl)

theorem Operand.reads (operand : Operand tree cs)
    (reads : ReadsBelow cs.length readInner) : Reads (readOperand site readInner cs) tree := by
  cases operand with
  | null => exact Reads.pure Expr.null
  | boolean value => cases value <;> exact reads_internLiteral _
  | @number numeral written =>
    obtain ⟨c, tail, text, decimal⟩ := Numeral.exists_cons written
    have noQuote : isQuote c = false := (isPlain_iff.mp (plain_of_word (isWord_of_isDecimal decimal)).1).1
    have noText : isTextLiteral numeral.text = false := by
      rw [text, isTextLiteral, noQuote, Bool.false_and]
    have whole := Numeral.split_text written (show EndsToken [] by simp [EndsToken])
    rw [List.append_nil] at whole
    have some : numeral.whole.isEmpty = false := by
      simp only [isWritten, Bool.and_eq_true, Bool.not_eq_true'] at written
      exact written.1.1
    rw [readOperand, noText, Numeral.ofText?, whole]
    simp only [Bool.false_eq_true, if_false, some]
    exact reads_internLiteral _
  | chain chain => exact chain.reads reads

end

end LineScript.Expression
