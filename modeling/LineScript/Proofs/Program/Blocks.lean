import LineScript.Proofs.Program.Located

/-!
# The extent of blocks

How deep a line is nested is the number of openers before it less the number of ends (`level`). The end of a block is
where this number first comes back to what it was before the block (`afterBlock?_eq_some`), and this is where the reader
of a statement goes on (`ensures_follows`). A reader of a block goes from one statement to the next. So it never
falls below the level at which it starts, it comes back to it after every statement (`Balanced`), and the lines that
it does not look at are inside other blocks (`exists_stop`).
-/

set_option autoImplicit false

namespace LineScript.Program

open LineScript.Source LineScript.Expression

variable {lines rest after : List Line} {line : Line} {i j k m : Nat}

/-! ## Levels -/

def weight (line : Line) : Int :=
  if line.body.opensBlock then 1 else if line.body = .endBlock then -1 else 0

/-- The number of openers among the first lines, less the number of ends. -/
def level (lines : List Line) (i : Nat) : Int :=
  ((lines.take i).map weight).sum

theorem level_succ (found : lines[i]? = some line) : level lines (i + 1) = level lines i + weight line := by
  simp [level, List.take_add_one, found]

/-- The line stands in a block that is opened at a place from `k` on: the level does not come back to that of the opener
before the line. -/
def Inside (lines : List Line) (k m : Nat) : Prop :=
  ∃ opener, k ≤ opener ∧ opener < m ∧ (∃ line ∈ lines[opener]?, line.body.opensBlock = true) ∧
    ∀ i, opener < i → i ≤ m → level lines opener < level lines i

/-- From one place to another, every end has an opener before it and every opener has an end after it. -/
structure Balanced (lines : List Line) (i j : Nat) : Prop where
  le : i ≤ j
  within : j ≤ lines.length
  level_eq : level lines j = level lines i
  level_le (m : Nat) : i ≤ m → m ≤ j → level lines i ≤ level lines m

theorem Balanced.trans (first : Balanced lines i j) (second : Balanced lines j k) : Balanced lines i k := by
  refine ⟨first.le.trans second.le, second.within, second.level_eq.trans first.level_eq, fun m above below => ?_⟩
  rcases Nat.le_total m j with before | behind
  · exact first.level_le m above before
  · have := first.level_eq
    have := second.level_le m behind below
    omega

/-- Balanced lines leave no block open. -/
theorem Balanced.not_inside (balanced : Balanced lines k m) : ¬Inside lines k m := by
  rintro ⟨opener, above, below, _, deeper⟩
  have := deeper m below (Nat.le_refl m)
  have := balanced.level_le opener above (Nat.le_of_lt below)
  have := balanced.level_eq
  omega

/-- The lines from a place on start with the line there. -/
theorem exists_of_drop_eq_cons (split : lines.drop i = line :: rest) :
    i < lines.length ∧ lines[i]? = some line ∧ lines.drop (i + 1) = rest := by
  have found : lines[i]? = some line := by rw [← List.head?_drop, split]; rfl
  refine ⟨(List.getElem?_eq_some_iff.mp found).1, found, ?_⟩
  rw [← List.drop_drop, split]
  rfl

/-- The last of some open blocks ends before the place `j`: it is the first place from `i` on by which the level has fallen
by their number. -/
structure Closes (lines : List Line) (depth : Int) (i j : Nat) : Prop where
  lt : i < j
  within : j ≤ lines.length
  ends : ∃ line ∈ lines[j - 1]?, line.body = .endBlock
  level_eq : level lines j + depth = level lines i
  higher (m : Nat) : i ≤ m → m < j → level lines i < level lines m + depth

theorem Closes.step {depth : Int} (found : lines[i]? = some line) (positive : 1 ≤ depth)
    (later : Closes lines (depth + weight line) (i + 1) j) : Closes lines depth i j := by
  have moved := level_succ found
  have fallen := later.level_eq
  refine ⟨Nat.lt_of_succ_lt later.lt, later.within, later.ends, by omega, fun m above below => ?_⟩
  rcases Nat.eq_or_lt_of_le above with rfl | above
  · omega
  · have := later.higher m above below
    omega

theorem exists_closes {depth : Int} (positive : 1 ≤ depth) (found : afterBlock? depth (lines.drop i) = some after) :
    ∃ j, after = lines.drop j ∧ Closes lines depth i j := by
  generalize split : lines.drop i = rest at found
  induction rest generalizing i depth with
  | nil => cases found
  | cons line rest ih =>
    obtain ⟨inBounds, here, tail⟩ := exists_of_drop_eq_cons split
    have goesOn (deeper : 1 ≤ depth + weight line) (found : afterBlock? (depth + weight line) rest = some after) :
        ∃ j, after = lines.drop j ∧ Closes lines depth i j := by
      obtain ⟨j, same, closes⟩ := ih deeper tail found
      exact ⟨j, same, closes.step here positive⟩
    rw [afterBlock?] at found
    split_ifs at found with opens ends last
    · rw [weight, if_pos opens] at goesOn
      exact goesOn (by omega) found
    · cases found
      have moved := level_succ here
      rw [weight, if_neg opens, if_pos ends] at moved
      refine ⟨i + 1, tail.symm, by omega, inBounds, ⟨line, here, ends⟩, by omega, fun m above below => ?_⟩
      obtain rfl : m = i := by omega
      omega
    · rw [weight, if_neg opens, if_pos ends] at goesOn
      exact goesOn (by omega) found
    · rw [weight, if_neg opens, if_neg ends, Int.add_zero] at goesOn
      exact goesOn positive found

/-! ## Statements -/

/-- A statement that is read takes the block that its line opens. -/
theorem ensures_follows (fuel depth : Nat) (line : Line) (rest : List Line) :
    Ensures (fun result => Follows line rest result.2) (readStatement fuel depth line rest) := by
  have settled := settledReader_readStatement (line :: rest) fuel depth line rest (by simp) (by simp)
  exact fun _ _ _ read => (settled.reads read).1.1

/-- After a statement the level is what it was before, and no lower on the way. -/
theorem Follows.exists_balanced (found : lines[i]? = some line) (follows : Follows line (lines.drop (i + 1)) after)
    (goesOn : line.body ≠ .endBlock) : ∃ j, after = lines.drop j ∧ i < j ∧ Balanced lines i j ∧
      ∀ m, i < m → m < j → line.body.opensBlock = true ∧ level lines i < level lines m := by
  have inBounds := (List.getElem?_eq_some_iff.mp found).1
  have moved := level_succ found
  rw [Follows] at follows
  split_ifs at follows with opens
  · rw [weight, if_pos opens] at moved
    obtain ⟨j, same, closes⟩ := exists_closes (Int.le_refl 1) follows
    have fallen := closes.level_eq
    have higher (m : Nat) (above : i < m) (below : m < j) : level lines i < level lines m := by
      have := closes.higher m above below
      omega
    have after := closes.lt
    refine ⟨j, same, by omega, ⟨by omega, closes.within, by omega, fun m above below => ?_⟩,
      fun m above below => ⟨opens, higher m above below⟩⟩
    rcases Nat.eq_or_lt_of_le above with rfl | above
    · exact Int.le_refl _
    · rcases Nat.eq_or_lt_of_le below with rfl | below
      · omega
      · exact Int.le_of_lt (higher m above below)
  · rw [weight, if_neg opens, if_neg goesOn] at moved
    refine ⟨i + 1, follows, by omega, ⟨by omega, inBounds, by omega, fun m above below => ?_⟩, fun m above below => ?_⟩
    · obtain rfl | rfl : m = i ∨ m = i + 1 := by omega
      · exact Int.le_refl _
      · omega
    · omega

/-! ## Blocks -/

/-- A line that ends the statements before it. -/
def Terminates (lines : List Line) (m : Nat) : Prop :=
  ∃ line ∈ lines[m]?, line.body.endsStatements = true

/-- A block from a place on stops at another: where it is balanced, at a line that ends its statements or after all
lines. It has passed lines that end statements only inside other blocks. -/
structure BlockStops (lines : List Line) (k m : Nat) : Prop where
  balanced : Balanced lines k m
  stands : m = lines.length ∨ Terminates lines m
  passed (i : Nat) : k ≤ i → i < m → Terminates lines i → Inside lines k i

theorem BlockStops.here (inBounds : k ≤ lines.length) (stands : k = lines.length ∨ Terminates lines k) :
    BlockStops lines k k := by
  refine ⟨⟨Nat.le_refl k, inBounds, rfl, fun m above below => ?_⟩, stands, fun i above below => by omega⟩
  rw [Nat.le_antisymm below above]

/-- A block stops where it does after its first statement. -/
theorem BlockStops.step (found : lines[k]? = some line) (goesOn : line.body.endsStatements = false)
    (balanced : Balanced lines k j)
    (deeper : ∀ m, k < m → m < j → line.body.opensBlock = true ∧ level lines k < level lines m)
    (later : BlockStops lines j m) : BlockStops lines k m := by
  refine ⟨balanced.trans later.balanced, later.stands, fun i above below terminates => ?_⟩
  rcases Nat.lt_or_ge i j with within | behind
  · rcases Nat.eq_or_lt_of_le above with rfl | above
    · obtain ⟨other, found', ends⟩ := terminates
      rw [found] at found'
      cases found'
      rw [goesOn] at ends
      cases ends
    · exact ⟨k, Nat.le_refl k, above, ⟨line, found, (deeper i above within).1⟩,
        fun m after before => (deeper m after (by omega)).2⟩
  · obtain ⟨opener, start, rest⟩ := later.passed i behind below terminates
    exact ⟨opener, balanced.le.trans start, rest⟩

theorem ensures_stops (inner depth fuel : Nat) (enough : (lines.drop k).length ≤ fuel) (inBounds : k ≤ lines.length) :
    Ensures (fun result => ∃ m, result.2 = lines.drop m ∧ BlockStops lines k m)
      (readStatements (readStatement inner) depth fuel (lines.drop k)) := by
  induction fuel generalizing k with
  | zero =>
    have none : k = lines.length := by simp at enough; omega
    exact .pure ⟨k, rfl, .here inBounds (.inl none)⟩
  | succ fuel ih =>
    cases split : lines.drop k with
    | nil =>
      have none : k = lines.length := by simp at split; omega
      exact .pure ⟨k, split.symm, .here inBounds (.inl none)⟩
    | cons line rest =>
      obtain ⟨before, found, tail⟩ := exists_of_drop_eq_cons split
      rw [readStatements]
      split_ifs with terminator
      · exact .pure ⟨k, split.symm, .here inBounds (.inr ⟨line, found, terminator⟩)⟩
      · refine (ensures_follows inner depth line rest).bind fun first follows => ?_
        rw [← tail] at follows
        have goesOn : line.body ≠ .endBlock := fun ends => terminator (by rw [ends]; rfl)
        obtain ⟨j, same, later, balanced, deeper⟩ := follows.exists_balanced found goesOn
        have shorter : (lines.drop j).length ≤ fuel := by
          simp only [List.length_drop] at enough ⊢
          omega
        have next := ih shorter balanced.within
        rw [← same] at next
        refine next.bind fun second stop => .pure ?_
        obtain ⟨m, stopped, stops⟩ := stop
        exact ⟨m, stopped, stops.step found (by simpa using terminator) balanced deeper⟩

/-! ## The two counts -/

theorem blockEnd_eq_ok (inBounds : i ≤ lines.length) (within : j ≤ lines.length)
    (found : afterBlock? 1 (lines.drop i) = some (lines.drop j)) : blockEnd lines i = .ok j := by
  have met : scanAt? lines i = some (lines.drop i) := by simp [scanAt?, tailAt]
  rw [blockEnd, met]
  dsimp only
  rw [found]
  simp only [scanEnd, List.length_drop]
  congr 1
  omega

/-- The counter of open blocks and the readers agree on every block. A statement that is read takes one line if its line
opens no block, and otherwise the lines up to where the counter finds the end of the block: the first end with as many
openers as ends since the statement. A block that is read stops at the first line that ends statements and is not inside
another block from there on, or after all lines. So every program that is read has openers and ends that match. -/
theorem readers_agree_with_counter (lines : List Line) (fuel depth : Nat) (table : Interner) :
    (∀ i line result after, lines[i]? = some line →
      readStatement fuel depth line (lines.drop (i + 1)) table = .ok result after →
      ∃ j : Nat, result.2 = lines.drop j ∧ i < j ∧ j ≤ lines.length ∧ (line.body.opensBlock = false → j = i + 1) ∧
        (line.body.opensBlock = true → blockEnd lines (i + 1) = .ok j ∧
          IsLeast {j | i < j ∧ (∃ last ∈ lines[j - 1]?, last.body = .endBlock) ∧ level lines j = level lines i} j)) ∧
    (∀ k result after, k ≤ lines.length →
      readBlock (readStatement fuel) depth (lines.drop k) table = .ok result after →
      ∃ m, result.2 = lines.drop m ∧
        IsLeast {m | k ≤ m ∧ (m = lines.length ∨ Terminates lines m ∧ ¬Inside lines k m)} m) ∧
    ∀ program after, readProgramLines lines table = .ok program after → Balanced lines 0 lines.length := by
  refine ⟨fun i line result after found read => ?_, fun k result after inBounds read => ?_, fun program after read => ?_⟩
  · have follows := ensures_follows fuel depth line (lines.drop (i + 1)) table result after read
    have before := (List.getElem?_eq_some_iff.mp found).1
    dsimp only [Follows] at follows
    split_ifs at follows with opens
    · obtain ⟨j, same, closes⟩ := exists_closes (Int.le_refl 1) follows
      rw [same] at follows
      have moved := level_succ found
      rw [weight, if_pos opens] at moved
      have fallen := closes.level_eq
      have later := closes.lt
      refine ⟨j, same, by omega, closes.within, by simp [opens], fun _ => ⟨blockEnd_eq_ok before closes.within follows,
        ⟨by omega, closes.ends, by omega⟩, fun other ⟨above, _, level⟩ => ?_⟩⟩
      by_contra earlier
      have := closes.higher other above (by omega)
      omega
    · exact ⟨i + 1, follows, by omega, before, fun _ => rfl, fun yes => absurd yes opens⟩
  · obtain ⟨m, same, stops⟩ := ensures_stops fuel depth _ (Nat.le_refl _) inBounds table result after read
    refine ⟨m, same, ⟨stops.balanced.le, stops.stands.imp id fun terminates => ⟨terminates, stops.balanced.not_inside⟩⟩,
      fun other ⟨above, stands⟩ => ?_⟩
    by_contra earlier
    rcases stands with rfl | ⟨terminates, outside⟩
    · exact earlier stops.balanced.within
    · exact outside (stops.passed other above (by omega) terminates)
  · have whole : Ensures (fun _ => Balanced lines 0 lines.length) (readProgramLines lines) := by
      refine (ensures_stops lines.length 0 lines.length (k := 0) (by simp) (Nat.zero_le _)).bind fun result stop => ?_
      obtain ⟨m, same, stops⟩ := stop
      dsimp only
      split
      · rename_i none
        rw [none] at same
        have all : m = lines.length := Nat.le_antisymm stops.balanced.within (List.drop_eq_nil_iff.mp same.symm)
        exact .pure (all ▸ stops.balanced)
      · unfold failUnexpected
        split <;> exact .throw _
    exact whole table program after read

theorem readers_agree_with_counter_of_choice :
    let lines : List Line := [⟨.keyword .if ['a', ':'], ⟨1, 1, none⟩, "if a:"⟩, ⟨.endBlock, ⟨2, 1, none⟩, "end"⟩]
    (∃ j : Nat, blockEnd lines 1 = .ok j) ∧
      (∃ m, IsLeast {m | 0 ≤ m ∧ (m = lines.length ∨ Terminates lines m ∧ ¬Inside lines 0 m)} m) ∧
      Balanced lines 0 2 := by
  intro lines
  obtain ⟨statements, blocks, programs⟩ := readers_agree_with_counter lines 2 0 .empty
  obtain ⟨j, -, -, -, -, extent⟩ := statements 0 _ _ _ rfl rfl
  obtain ⟨m, -, least⟩ := blocks 0 _ _ (Nat.zero_le _) rfl
  exact ⟨⟨j, (extent rfl).1⟩, ⟨m, least⟩, programs _ _ rfl⟩

end LineScript.Program
