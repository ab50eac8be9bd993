import Inflection.Pattern.Search

/-!
# Where a search finds

A search from a place finds a stretch that starts there or later and lies
within the text.  Each thread keeps the number at which it started, and
moves on with the place; so a match that a thread completes reaches from its
start to the place.

This is all that replacing needs to know of a search: which of the stretches in
a text it prefers is left to the program.  Searching on behind each match gives
the successive matches, none of which is an empty one right behind another.
They are told here without rounds: there are enough of those for all matches.
-/

namespace Inflection.Pattern

/-- Tells that a stretch lies between two numbers. -/
structure Span.Between (first last : Nat) (span : Span) : Prop where
  first_le : first ≤ span.start
  start_le_stop : span.start ≤ span.stop
  stop_le : span.stop ≤ last

/-- What a search keeps that has gone from one number to another: its threads
started on the way, and the best match so far lies on it. -/
structure Searching
    (first position : Nat)
    (threads : List Thread)
    (best : Option Span) :
    Prop where
  started : ∀ thread ∈ threads, first ≤ thread.start ∧ thread.start ≤ position
  completed : ∀ span ∈ best, span.Between first position

theorem Searching.tail
    {first position : Nat}
    {thread : Thread}
    {threads : List Thread}
    {best : Option Span}
    (searching : Searching first position (thread :: threads) best) :
    Searching first position threads best :=
  ⟨fun other later =>
    searching.started other (List.mem_cons_of_mem thread later),
    searching.completed⟩

theorem Searching.nil
    {first position : Nat}
    {best : Option Span}
    (completed : ∀ span ∈ best, span.Between first position) :
    Searching first position [] best :=
  ⟨fun _ impossible => absurd impossible List.not_mem_nil, completed⟩

/-! ## One place -/

section

variable
    {code : Code}
    {before after : Option Char}
    {thread : Thread}

/-- Following choices and conditions adds threads of one start only. -/
theorem mem_waiting_follow
    {start rounds : Nat}
    {labels : List Nat}
    {frontier : Frontier}
    (waits :
      thread ∈
        (follow code before after start rounds labels frontier).waiting) :
    thread.start = start ∨ thread ∈ frontier.waiting := by
  fun_induction follow code before after start rounds labels frontier with
  | case1 => exact .inr waits
  | case2 => exact .inr waits
  | case3 rounds label labels entered waiting again ih => exact ih waits
  | case4 rounds label labels entered waiting isNew entered' first second
    isChoice ih =>
    exact ih waits
  | case5 rounds label labels entered waiting isNew entered' condition next
    isCheck labels' ih =>
    exact ih waits
  | case6 rounds label labels entered waiting isNew entered' notChoice
    notCheck ih =>
    rcases ih waits with started | known
    · exact .inl started
    · rcases List.mem_cons.mp known with equal | known
      · exact .inl (congrArg Thread.start equal)
      · exact .inr known

/-- A thread that waits after some have been entered has the start of
one of them. -/
theorem mem_waiting_foldl_enter
    {threads : List Thread}
    {frontier : Frontier}
    (waits :
      thread ∈
        (threads.foldl (fun frontier thread =>
            frontier.enter code before after thread)
          frontier).waiting) :
    (∃ entered ∈ threads, entered.start = thread.start) ∨
      thread ∈ frontier.waiting := by
  induction threads generalizing frontier with
  | nil => exact .inr waits
  | cons first rest ih =>
    rcases ih waits with ⟨entered, isLater, same⟩ | known
    · exact .inl ⟨entered, List.mem_cons_of_mem first isLater, same⟩
    · rcases mem_waiting_follow known with same | known
      · exact .inl ⟨first, List.mem_cons_self, same.symm⟩
      · exact .inr known

/-- Moving threads over a character keeps their starts, and a match is from such
a start up to the place. -/
theorem Searching.moveOver
    {first position : Nat}
    {best : Option Span}
    {threads moved : List Thread}
    (waiting : Searching first position threads best)
    (behind : Searching first position moved best) :
    Searching first position
      (Pattern.moveOver code after position best threads moved).1
      (Pattern.moveOver code after position best threads moved).2 := by
  fun_induction Pattern.moveOver code after position best threads moved with
  | case1 moved =>
    refine ⟨?_, behind.completed⟩
    intro thread isMoved
    exact behind.started thread (List.mem_reverse.mp isMoved)
  | case2 thread threads moved isDone =>
    have started := waiting.started thread List.mem_cons_self
    constructor
    · intro thread isMoved
      exact behind.started thread (List.mem_reverse.mp isMoved)
    · intro span isMatch
      cases isMatch
      exact ⟨started.1, started.2, Nat.le_refl position⟩
  | case3 thread threads moved set next isChar reads ih =>
    apply ih waiting.tail
    refine ⟨?_, behind.completed⟩
    intro other isMoved
    rcases List.mem_cons.mp isMoved with equal | known
    · rw [equal]
      exact waiting.started thread List.mem_cons_self
    · exact behind.started other known
  | case4 thread threads moved set next isChar refuses ih =>
    exact ih waiting.tail behind
  | case5 thread threads moved notDone notChar ih =>
    exact ih waiting.tail behind

end

section

variable
    {first position : Nat}
    {threads : List Thread}
    {best : Option Span}

/-- A step keeps what a search keeps. -/
theorem Searching.step
    (program : Program)
    (searching : Searching first position threads best)
    (onward : first ≤ position)
    (before after : Option Char) :
    Searching first position
      (program.step before after position threads best).1
      (program.step before after position threads best).2 := by
  have opened :
      ∀ thread ∈ (if best.isNone then threads ++ [⟨program.entry, position⟩]
        else threads),
        first ≤ thread.start ∧ thread.start ≤ position := by
    intro thread isOpened
    split at isOpened
    · rcases List.mem_append.mp isOpened with known | isNew
      · exact searching.started thread known
      · cases List.mem_singleton.mp isNew
        exact ⟨onward, Nat.le_refl position⟩
    · exact searching.started thread isOpened
  apply Searching.moveOver
  · refine ⟨?_, searching.completed⟩
    intro thread waits
    rcases mem_waiting_foldl_enter (List.mem_reverse.mp waits) with
      ⟨entered, isOpened, same⟩ | impossible
    · rw [← same]
      exact opened entered isOpened
    · cases impossible
  · exact .nil searching.completed

/-- What a search keeps, it keeps at the next place. -/
theorem Searching.onward
    (searching : Searching first position threads best) :
    Searching first (position + 1) threads best := by
  constructor
  · intro thread isThread
    have started := searching.started thread isThread
    exact ⟨started.1, Nat.le_succ_of_le started.2⟩
  · intro span isBest
    have between := searching.completed span isBest
    exact ⟨between.first_le, between.start_le_stop,
      Nat.le_succ_of_le between.stop_le⟩

/-! ## A whole search -/

/-- A search ends with a stretch between the number where it started and the end
of the text. -/
theorem Searching.between_of_findWith
    {program : Program}
    {before : Option Char}
    {ahead : List Char}
    (searching : Searching first position threads best)
    (onward : first ≤ position)
    {span : Span}
    (found : program.findWith before ahead position threads best = some span) :
    span.Between first (position + ahead.length) := by
  induction ahead generalizing before position threads best with
  | nil =>
    exact (searching.step program onward before none).completed span found
  | cons char ahead ih =>
    have stepped := searching.step program onward before (some char)
    simp only [Program.findWith] at found
    split at found
    · have between := stepped.completed span found
      refine ⟨between.first_le, between.start_le_stop, ?_⟩
      exact Nat.le_trans between.stop_le (Nat.le_add_right position _)
    · have between := ih stepped.onward (Nat.le_succ_of_le onward) found
      rw [Nat.add_assoc, Nat.add_comm 1] at between
      exact between

/-- What is found from a place on lies between the place and the end
of the text. -/
theorem Program.between_of_find?
    {program : Program}
    {place : Place}
    {span : Span}
    (found : program.find? place = some span) :
    span.Between place.position (place.position + place.ahead.length) := by
  have nothing : Searching place.position place.position [] none :=
    .nil fun span impossible => by cases impossible
  exact nothing.between_of_findWith (Nat.le_refl place.position) found

end

/-! ## Successive matches -/

/-- The place in a text with a number of characters in front of it. -/
def Place.within (text : List Char) (position : Nat) : Place :=
  ⟨(text.take position).getLast?, text.drop position, position⟩

/-- The next match in a text behind the one that stopped last, if there was one.
A search from where that one stopped finds it, unless it finds an empty match
right there; then a search from the next character on does. -/
inductive NextMatch (program : Program) (text : List Char) :
    Option Nat → Option Span → Prop where
  | first
      {span? : Option Span}
      (found : program.find? (.within text 0) = span?) :
      NextMatch program text none span?
  | behind
      {stop : Nat}
      {span? : Option Span}
      (found : program.find? (.within text stop) = span?)
      (counts : span? ≠ some ⟨stop, stop⟩) :
      NextMatch program text (some stop) span?
  | further
      {stop : Nat}
      {span? : Option Span}
      (empty : program.find? (.within text stop) = some ⟨stop, stop⟩)
      (inside : stop < text.length)
      (found : program.find? (.within text (stop + 1)) = span?) :
      NextMatch program text (some stop) span?
  | atEnd
      (empty :
        program.find? (.within text text.length) =
          some ⟨text.length, text.length⟩) :
      NextMatch program text (some text.length) none

/-- The successive matches in a text behind the one that stopped last, up to
where there is no other. -/
inductive Successive (program : Program) (text : List Char) :
    Option Nat → List Span → Prop where
  | nil
      {lastStop : Option Nat}
      (nothing : NextMatch program text lastStop none) :
      Successive program text lastStop []
  | cons
      {lastStop : Option Nat}
      {span : Span}
      {spans : List Span}
      (next : NextMatch program text lastStop (some span))
      (rest : Successive program text (some span.stop) spans) :
      Successive program text lastStop (span :: spans)

theorem Place.within_zero
    (text : List Char) :
    Place.within text 0 = .start text :=
  rfl

/-- Going on from a place in a text leads to another place in the same text. -/
theorem Place.advance_within
    {text : List Char}
    {position count : Nat}
    (fits : position + count ≤ text.length) :
    (Place.within text position).advance count =
      .within text (position + count) := by
  induction count generalizing position with
  | zero => rfl
  | succ count ih =>
    have inside : position < text.length := by omega
    have oneOn :
        (Place.within text position).advance (count + 1) =
          (Place.within text (position + 1)).advance count := by
      simp only [Place.within]
      rw [List.drop_eq_getElem_cons inside, Place.advance]
      rw [List.take_succ_eq_append_getElem inside, List.getLast?_concat]
    rw [oneOn, ih (by omega), Nat.add_assoc, Nat.add_comm 1]

section

variable
    {program : Program}
    {text : List Char}

theorem between_of_find?_within
    {position : Nat}
    (inside : position ≤ text.length)
    {span : Span}
    (found : program.find? (.within text position) = some span) :
    span.Between position text.length := by
  have between := Program.between_of_find? found
  have whole : (Place.within text position).position +
      (Place.within text position).ahead.length = text.length := by
    simp only [Place.within, List.length_drop]
    omega
  rw [whole] at between
  exact between

/-- The next match lies behind where the last one stopped, and stops later. -/
theorem NextMatch.between
    {stop : Nat}
    {span : Span}
    (next : NextMatch program text (some stop) (some span))
    (inside : stop ≤ text.length) :
    span.Between stop text.length ∧ stop < span.stop := by
  cases next with
  | behind found counts =>
    have between := between_of_find?_within inside found
    refine ⟨between, ?_⟩
    rcases span with ⟨start, stop'⟩
    have first_le : stop ≤ start := between.first_le
    have start_le_stop : start ≤ stop' := between.start_le_stop
    apply Nat.lt_of_le_of_ne (Nat.le_trans first_le start_le_stop)
    intro same
    subst same
    exact counts (by rw [Nat.le_antisymm start_le_stop first_le])
  | further empty inside found =>
    have between := between_of_find?_within inside found
    have later := between.first_le
    have ordered := between.start_le_stop
    exact ⟨⟨by omega, ordered, between.stop_le⟩, by omega⟩

/-- At the end of a text there is no other match. -/
theorem NextMatch.atLength :
    NextMatch program text (some text.length) none := by
  cases found : program.find? (.within text text.length) with
  | none => exact .behind found (by simp)
  | some span =>
    have between := between_of_find?_within (Nat.le_refl _) found
    rcases span with ⟨start, stop⟩
    have first_le : text.length ≤ start := between.first_le
    have start_le_stop : start ≤ stop := between.start_le_stop
    have stop_le : stop ≤ text.length := between.stop_le
    obtain rfl : start = text.length := by omega
    obtain rfl : stop = text.length := by omega
    exact .atEnd found

theorem nextMatch_first (program : Program) (text : List Char) :
    NextMatch program text none (program.next? none (.within text 0)) := by
  apply NextMatch.first
  unfold Program.next?
  cases program.find? (.within text 0) with
  | none => rfl
  | some span => simp

theorem next?_of_empty
    {stop : Nat}
    {place : Place}
    (empty : program.find? place = some ⟨stop, stop⟩) :
    program.next? (some stop) place =
      if place.ahead.isEmpty then none
      else program.find? (place.advance 1) := by
  simp [Program.next?, empty, Span.isEmpty]

theorem next?_of_not_empty
    {stop : Nat}
    {place : Place}
    (counts : program.find? place ≠ some ⟨stop, stop⟩) :
    program.next? (some stop) place = program.find? place := by
  unfold Program.next?
  cases found : program.find? place with
  | none => rfl
  | some span =>
    have other : ¬ (span.isEmpty && some stop == some span.stop) = true := by
      intro same
      rcases span with ⟨start, stop'⟩
      simp only [Span.isEmpty, Bool.and_eq_true, beq_iff_eq,
        Option.some.injEq] at same
      rcases same with ⟨rfl, rfl⟩
      exact counts found
    exact if_neg other

theorem nextMatch_behind
    (program : Program)
    {stop : Nat}
    (inside : stop ≤ text.length) :
    NextMatch program text (some stop)
      (program.next? (some stop) (.within text stop)) := by
  by_cases empty : program.find? (.within text stop) = some ⟨stop, stop⟩
  · rw [next?_of_empty empty]
    rcases Nat.lt_or_eq_of_le inside with inside | rfl
    · have more : (Place.within text stop).ahead.isEmpty = false := by
        simpa [Place.within] using inside
      rw [more, Place.advance_within inside]
      exact .further empty inside rfl
    · have ended : (Place.within text text.length).ahead.isEmpty = true := by
        simp [Place.within]
      rw [ended]
      exact .atEnd empty
  · rw [next?_of_not_empty empty]
    exact .behind rfl empty

/-- Behind a match, enough rounds of a search give all further matches: each of
them stops at a number of its own. -/
theorem successive_spansFrom
    {rounds stop : Nat}
    (inside : stop ≤ text.length)
    (enough : text.length ≤ stop + rounds) :
    Successive program text (some stop)
      (program.spansFrom rounds (some stop) (.within text stop)) := by
  induction rounds generalizing stop with
  | zero =>
    obtain rfl : stop = text.length := by omega
    exact .nil .atLength
  | succ rounds ih =>
    have next := nextMatch_behind program inside
    unfold Program.spansFrom
    cases found : program.next? (some stop) (.within text stop) with
    | none => exact .nil (found ▸ next)
    | some span =>
      rw [found] at next
      rcases next.between inside with ⟨between, later⟩
      have stop_le := between.stop_le
      have moved : (Place.within text stop).advance (span.stop - stop) =
          .within text span.stop := by
        rw [Place.advance_within (by omega),
          Nat.add_sub_cancel' (Nat.le_of_lt later)]
      show Successive program text (some stop)
        (span :: program.spansFrom rounds (some span.stop)
          ((Place.within text stop).advance (span.stop - stop)))
      rw [moved]
      exact .cons next (ih stop_le (by omega))

/-- The matches of a program in a text are its successive ones, all of them. -/
theorem successive_spans (program : Program) (text : List Char) :
    Successive program text none (program.spans text) := by
  have next := nextMatch_first program text
  unfold Program.spans Program.spansFrom
  rw [← Place.within_zero]
  cases found : program.next? none (.within text 0) with
  | none => exact .nil (found ▸ next)
  | some span =>
    rw [found] at next
    cases next with
    | first isFirst =>
      have between := between_of_find?_within (Nat.zero_le _) isFirst
      have moved :
          (Place.within text 0).advance span.stop = .within text span.stop := by
        rw [Place.advance_within (by simpa using between.stop_le), Nat.zero_add]
      show Successive program text none
        (span :: program.spansFrom text.length (some span.stop)
          ((Place.within text 0).advance span.stop))
      rw [moved]
      exact .cons (.first isFirst)
        (successive_spansFrom between.stop_le (Nat.le_add_left _ _))

/-- There is only one next match. -/
theorem NextMatch.unique
    {lastStop : Option Nat}
    {left right : Option Span}
    (isLeft : NextMatch program text lastStop left)
    (isRight : NextMatch program text lastStop right) :
    left = right := by
  cases isLeft with
  | first found =>
    cases isRight with
    | first found' => rw [← found, found']
  | behind found counts =>
    cases isRight with
    | behind found' counts' => rw [← found, found']
    | further empty inside found' =>
      exact absurd (found.symm.trans empty) counts
    | atEnd empty => exact absurd (found.symm.trans empty) counts
  | further empty inside found =>
    cases isRight with
    | behind found' counts' => exact absurd (found'.symm.trans empty) counts'
    | further empty' inside' found' => rw [← found, found']
    | atEnd empty' => exact absurd inside (Nat.lt_irrefl _)
  | atEnd empty =>
    cases isRight with
    | behind found' counts' => exact absurd (found'.symm.trans empty) counts'
    | further empty' inside found' => exact absurd inside (Nat.lt_irrefl _)
    | atEnd empty' => rfl

theorem Successive.unique
    {lastStop : Option Nat}
    {left right : List Span}
    (isLeft : Successive program text lastStop left)
    (isRight : Successive program text lastStop right) :
    left = right := by
  induction isLeft generalizing right with
  | nil nothing =>
    cases isRight with
    | nil nothing' => rfl
    | cons next rest => cases nothing.unique next
  | cons next rest ih =>
    cases isRight with
    | nil nothing => cases nothing.unique next
    | cons next' rest' =>
      cases next.unique next'
      rw [ih rest']

/-- The matches of a program in a text are its successive ones. -/
theorem successive_iff
    {spans : List Span} :
    Successive program text none spans ↔ spans = program.spans text := by
  constructor
  · intro successive
    exact successive.unique (successive_spans program text)
  · rintro rfl
    exact successive_spans program text

end

end Inflection.Pattern
