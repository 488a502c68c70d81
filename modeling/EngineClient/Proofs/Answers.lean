/-! What a call answers that is made again and again. -/

namespace EngineClient

section

variable {ε α β : Type} {result : Except ε α} {value : β}

/-- A result that is changed is a value exactly if it was one before. -/
theorem map_eq_ok_iff {change : α → β} :
    result.map change = .ok value ↔ ∃ held, result = .ok held ∧ change held = value := by
  cases result with
  | error failure => simp [Except.map]
  | ok held => simp [Except.map]

/-- One result after another is a value exactly if both of them are. -/
theorem bind_eq_ok_iff {next : α → Except ε β} :
    result >>= next = .ok value ↔ ∃ held, result = .ok held ∧ next held = .ok value := by
  cases result with
  | error failure => simp [Bind.bind, Except.bind]
  | ok held => simp [Bind.bind, Except.bind]

/-- A result is an answer exactly if it is a value. -/
theorem toOption_eq_some_iff {held : α} : result.toOption = some held ↔ result = .ok held := by
  cases result with
  | error failure => simp [Except.toOption]
  | ok other => simp [Except.toOption]

end

/-- The answers to a call that is made a number of times; `none` where one of them never comes. -/
def answersTo {σ α : Type} (call : σ → Option (α × σ)) : Nat → σ → Option (List α)
  | 0, _ => some []
  | count + 1, state =>
    match call state with
    | some (answer, state) => (answersTo call count state).map (answer :: ·)
    | none => none

/-- The first answer comes from the state at hand, and the others from the one that it leaves. -/
theorem answersTo_succ {σ α : Type} {call : σ → Option (α × σ)} {state next : σ} {answer : α}
    (answered : call state = some (answer, next)) (count : Nat) :
    answersTo call (count + 1) state = (answersTo call count next).map (answer :: ·) := by
  simp only [answersTo, answered]

/-- Which answers come hangs on the first call alone. -/
theorem answersTo_of_same {σ α : Type} {call : σ → Option (α × σ)} {one other : σ}
    (same : call one = call other) (count : Nat) :
    answersTo call count one = answersTo call count other := by
  cases count with
  | zero => rfl
  | succ count => simp only [answersTo, same]

/-- A call that is made again and again, with its answers and the state that is left in the end. -/
inductive Repeats {σ α : Type} (call : σ → Option (α × σ)) : σ → List α → σ → Prop where
  /-- It is made no more. -/
  | done (state : σ) : Repeats call state [] state
  /-- An answer comes before the others. -/
  | again {state next after : σ} {answer : α} {answers : List α}
    (answered : call state = some (answer, next)) (behind : Repeats call next answers after) :
    Repeats call state (answer :: answers) after

/-- A call that has some answers, and then those that it has in another state. -/
def Continues {σ α : Type} (call : σ → Option (α × σ)) (one : σ) (answers : List α) (other : σ) :
    Prop :=
  ∃ middle, Repeats call one answers middle ∧ call middle = call other

section

variable {σ α : Type} {call : σ → Option (α × σ)} {one other : σ} {answers : List α}

/-- Answers in two parts come one part behind the other. -/
theorem Repeats.split {front back : List α} (repeats : Repeats call one (front ++ back) other) :
    ∃ middle, Repeats call one front middle ∧ Repeats call middle back other := by
  -- The induction is on the calls in front.
  induction front generalizing one with
  | nil => exact ⟨one, .done one, repeats⟩
  | cons answer front ih =>
    cases repeats with
    | again answered behind =>
      obtain ⟨middle, first, second⟩ := ih behind
      exact ⟨middle, .again answered first, second⟩

/-- Answers that come behind others come with them. -/
theorem Repeats.append {middle : σ} {front back : List α} (first : Repeats call one front middle)
    (second : Repeats call middle back other) : Repeats call one (front ++ back) other := by
  induction first with
  | done state => exact second
  | again answered behind ih => exact .again answered (ih second)

/-- All answers to a number of calls are those that came, and those from the state that is left. -/
theorem Repeats.answersTo_eq (repeats : Repeats call one answers other) (count : Nat) :
    answersTo call (answers.length + count) one
      = (answersTo call count other).map (answers ++ ·) := by
  -- Each answer that came is put in front of those behind it.
  induction repeats with
  | done state => simp
  | again answered behind ih =>
    rw [List.length_cons, Nat.add_right_comm, answersTo_succ answered, ih, Option.map_map]
    rfl

/-- All answers to a number of calls are those that came, and those from the other state. -/
theorem Continues.answersTo_eq (continues : Continues call one answers other) (count : Nat) :
    answersTo call (answers.length + count) one
      = (answersTo call count other).map (answers ++ ·) := by
  obtain ⟨middle, repeats, same⟩ := continues
  rw [repeats.answersTo_eq, answersTo_of_same same]

/-- A state where the call is answered alike continues alike. -/
theorem Continues.of_same {start : σ} (same : call start = call one)
    (continues : Continues call one answers other) : Continues call start answers other := by
  obtain ⟨middle, repeats, last⟩ := continues
  -- Without an answer there is only the call that follows; else the first answer is the same.
  cases repeats with
  | done => exact ⟨start, .done start, same.trans last⟩
  | again answered behind => exact ⟨middle, .again (same.trans answered) behind, last⟩

/-- An answer comes before those of the state that it leaves. -/
theorem Continues.cons {start : σ} {answer : α} (answered : call start = some (answer, one))
    (continues : Continues call one answers other) :
    Continues call start (answer :: answers) other := by
  obtain ⟨middle, repeats, last⟩ := continues
  exact ⟨middle, .again answered repeats, last⟩

/-- A state whose first answer is known has that answer and goes on from what it leaves, unless it has
none before those of the other state. -/
theorem Continues.uncons {next : σ} {answer : α} (continues : Continues call one answers other)
    (answered : call one = some (answer, next)) :
    answers = [] ∧ call other = some (answer, next) ∨
      ∃ others, answers = answer :: others ∧ Continues call next others other := by
  obtain ⟨middle, repeats, last⟩ := continues
  -- Either no call was made yet, or the first one had this answer.
  cases repeats with
  | done => exact .inl ⟨rfl, last.symm.trans answered⟩
  | again first behind =>
    cases answered.symm.trans first
    exact .inr ⟨_, rfl, middle, behind, last⟩

/-- States that have the same answers, and then those of states that answer alike, answer alike. -/
theorem Continues.answersTo_congr {start last : σ} (first : Continues call one answers other)
    (second : Continues call start answers last)
    (same : ∀ count, answersTo call count other = answersTo call count last) (count : Nat) :
    answersTo call count one = answersTo call count start := by
  -- The induction is on the answers, of which a number of calls may have only the first.
  induction answers generalizing one start count with
  | nil =>
    obtain ⟨_, repeats, firstSame⟩ := first
    cases repeats
    obtain ⟨_, repeats, secondSame⟩ := second
    cases repeats
    rw [answersTo_of_same firstSame, answersTo_of_same secondSame, same]
  | cons answer answers ih =>
    obtain ⟨_, repeats, firstSame⟩ := first
    cases repeats with
    | again oneRan oneBehind =>
      obtain ⟨_, repeats, secondSame⟩ := second
      cases repeats with
      | again otherRan otherBehind =>
        -- The first answer is the same, and the others are by induction.
        cases count with
        | zero => rfl
        | succ count =>
          rw [answersTo_succ oneRan, answersTo_succ otherRan,
            ih ⟨_, oneBehind, firstSame⟩ ⟨_, otherBehind, secondSame⟩]

end

/-- The first answers of a number of them, of which all behind the given ones are the same. -/
def answersThen {α : Type} (answers : List α) (last : α) (count : Nat) : List α :=
  (answers ++ List.replicate count last).take count

/-- Without calls there are no answers. -/
@[simp] theorem answersThen_zero {α : Type} (answers : List α) (last : α) :
    answersThen answers last 0 = [] := by
  simp [answersThen]

/-- Behind the answers every call has the last one. -/
@[simp] theorem answersThen_nil {α : Type} (last : α) (count : Nat) :
    answersThen [] last count = List.replicate count last := by
  simp [answersThen]

/-- The first call has the first answer. -/
@[simp] theorem answersThen_cons {α : Type} (answer : α) (answers : List α) (last : α)
    (count : Nat) :
    answersThen (answer :: answers) last (count + 1) = answer :: answersThen answers last count := by
  -- One repetition more than wanted at the end is cut off again.
  simp only [answersThen, List.cons_append, List.take_succ_cons, List.take_append,
    List.take_replicate]
  congr 3
  omega

/-- An answer among the first ones is a given one, or the one that comes behind them. -/
theorem mem_answersThen {α : Type} {answers : List α} {answer last : α} {count : Nat}
    (member : answer ∈ answersThen answers last count) : answer ∈ answers ∨ answer = last := by
  rcases List.mem_append.mp (List.mem_of_mem_take member) with given | behind
  · exact .inl given
  · exact .inr (List.eq_of_mem_replicate behind)

/-- Answers that differ from the one behind them are told by the first answers of all numbers. -/
theorem answersThen_injective {α : Type} {answers others : List α} {last : α}
    (absent : last ∉ answers) (absentToo : last ∉ others)
    (same : ∀ count, answersThen answers last count = answersThen others last count) :
    answers = others := by
  -- Counts one more than are left compare the heads, and then the tails for every count.
  induction answers generalizing others with
  | nil => cases others with
    | nil => rfl
    | cons other others =>
      -- One list ends where the other goes on, so an answer would be the last one.
      have first := same 1
      rw [answersThen_nil, answersThen_cons, answersThen_zero] at first
      cases first
      exact absurd List.mem_cons_self absentToo
  | cons answer answers ih => cases others with
    | nil =>
      have first := same 1
      rw [answersThen_nil, answersThen_cons, answersThen_zero] at first
      cases first
      exact absurd List.mem_cons_self absent
    | cons other others =>
      have each (count : Nat) : answer = other ∧
          answersThen answers last count = answersThen others last count := by
        have both := same (count + 1)
        rw [answersThen_cons, answersThen_cons] at both
        exact List.cons.inj both
      -- The tails agree for every count, so the induction hypothesis applies to them.
      have rest : answers = others := ih (fun member => absent (List.mem_cons_of_mem _ member))
        (fun member => absentToo (List.mem_cons_of_mem _ member)) fun count => (each count).2
      rw [(each 0).1, rest]

/-- Two calls that answer the same, and leave states that are alike. -/
def SameAnswer {σ α : Type} (alike : σ → σ → Prop) (one other : Option (α × σ)) : Prop :=
  ∃ answer left right, one = some (answer, left) ∧ other = some (answer, right) ∧ alike left right

/-- An answer that both calls have is the same. -/
theorem SameAnswer.intro {σ α : Type} {alike : σ → σ → Prop} {answer : α} {left right : σ}
    (same : alike left right) : SameAnswer alike (some (answer, left)) (some (answer, right)) :=
  ⟨answer, left, right, rfl, rfl, same⟩

/-- Calls that answer the same leave states that are alike in every weaker sense. -/
theorem SameAnswer.mono {σ α : Type} {alike weaker : σ → σ → Prop} {one other : Option (α × σ)}
    (same : SameAnswer alike one other) (implies : ∀ left right, alike left right → weaker left right) :
    SameAnswer weaker one other := by
  obtain ⟨answer, left, right, rfl, rfl, agree⟩ := same
  exact .intro (implies left right agree)

/-- A call that answers the same in states that are alike does so again and again. -/
theorem answersTo_alike {σ α : Type} {call : σ → Option (α × σ)} {alike : σ → σ → Prop}
    (respects : ∀ one other, alike one other → SameAnswer alike (call one) (call other))
    {one other : σ} (same : alike one other) (count : Nat) :
    ∃ answers, answersTo call count one = some answers ∧ answersTo call count other = some answers := by
  -- Each answer leaves states that are alike again.
  induction count generalizing one other with
  | zero => exact ⟨[], rfl, rfl⟩
  | succ count ih =>
    obtain ⟨answer, left, right, oneRan, otherRan, next⟩ := respects one other same
    obtain ⟨answers, leftAnswers, rightAnswers⟩ := ih next
    refine ⟨answer :: answers, ?_, ?_⟩
    · rw [answersTo_succ oneRan, leftAnswers, Option.map_some]
    · rw [answersTo_succ otherRan, rightAnswers, Option.map_some]

/-- Calls answer the same when their states are seen as parts of greater ones. -/
theorem SameAnswer.map {σ τ α : Type} {alike : σ → σ → Prop} {alike' : τ → τ → Prop}
    {one other : Option (α × σ)} {wrap : σ → τ} (same : SameAnswer alike one other)
    (keeps : ∀ left right, alike left right → alike' (wrap left) (wrap right)) :
    SameAnswer alike' (one.map fun (answer, state) => (answer, wrap state))
      (other.map fun (answer, state) => (answer, wrap state)) := by
  obtain ⟨answer, left, right, rfl, rfl, agree⟩ := same
  exact .intro (keeps left right agree)

/-- An answer that comes, with no failure but an allowed one, and leaves a state of a kind. -/
inductive Answered {σ ε α : Type} (Kept : σ → Prop) (Allowed : ε → Prop) :
    Option (Except ε α × σ) → Prop where
  /-- The call succeeds. -/
  | ok {value : α} {next : σ} (kept : Kept next) : Answered Kept Allowed (some (.ok value, next))
  /-- The call fails as it may. -/
  | error {error : ε} {next : σ} (allowed : Allowed error) (kept : Kept next) :
    Answered Kept Allowed (some (.error error, next))

/-- An answer stays one when its state is seen as a part of a greater one. -/
theorem Answered.map {σ τ ε α : Type} {Kept : σ → Prop} {Kept' : τ → Prop} {Allowed : ε → Prop}
    {result : Option (Except ε α × σ)} {wrap : σ → τ} (answered : Answered Kept Allowed result)
    (keeps : ∀ state, Kept state → Kept' (wrap state)) :
    Answered Kept' Allowed (result.map fun (answer, state) => (answer, wrap state)) := by
  cases answered with
  | ok kept => exact .ok (keeps _ kept)
  | error allowed kept => exact .error allowed (keeps _ kept)

/-- A call that succeeds leaves a state of the kind. -/
theorem Answered.kept {σ ε α : Type} {Kept : σ → Prop} {Allowed : ε → Prop} {value : α} {next : σ}
    (answered : Answered Kept Allowed (some (.ok value, next))) : Kept next := by
  cases answered with
  | ok kept => exact kept

/-- A call that leaves less behind each item that it brings. -/
def Consumes {σ ε α : Type} (call : σ → Option (Except ε (Option α) × σ)) (size : σ → Nat × Nat) :
    Prop :=
  ∀ state next item, call state = some (.ok (some item), next) →
    Prod.Lex (· < ·) (· < ·) (size next) (size state)

/-- A call that is made again and again brings some items, and then comes to its end or fails. -/
inductive Exhausts {σ ε α : Type} (call : σ → Option (Except ε (Option α) × σ)) :
    σ → List α → Except ε Unit → σ → Prop where
  /-- There is nothing more. -/
  | ended {state next : σ} (answered : call state = some (.ok none, next)) :
    Exhausts call state [] (.ok ()) next
  /-- The call fails. -/
  | failed {state next : σ} {error : ε} (answered : call state = some (.error error, next)) :
    Exhausts call state [] (.error error) next
  /-- An item comes before the others. -/
  | item {state next after : σ} {item : α} {items : List α} {last : Except ε Unit}
    (answered : call state = some (.ok (some item), next))
    (behind : Exhausts call next items last after) : Exhausts call state (item :: items) last after

namespace Exhausts

section

variable {σ ε α : Type} {call : σ → Option (Except ε (Option α) × σ)}

/-- A call has one way to go on to its end. -/
theorem unique {state after after' : σ} {items items' : List α} {last last' : Except ε Unit}
    (one : Exhausts call state items last after)
    (other : Exhausts call state items' last' after') :
    items = items' ∧ last = last' ∧ after = after' := by
  -- The induction is on the items; at each of them both have the same answer.
  induction one generalizing items' with
  | ended answered => cases other with
    | ended again =>
      cases answered.symm.trans again
      exact ⟨rfl, rfl, rfl⟩
    | failed again => cases answered.symm.trans again
    | item again behind => cases answered.symm.trans again
  | failed answered => cases other with
    | ended again => cases answered.symm.trans again
    | failed again =>
      cases answered.symm.trans again
      exact ⟨rfl, rfl, rfl⟩
    | item again behind => cases answered.symm.trans again
  | item answered behind ih => cases other with
    | ended again => cases answered.symm.trans again
    | failed again => cases answered.symm.trans again
    | item again rest =>
      cases answered.symm.trans again
      obtain ⟨rfl, rfl, rfl⟩ := ih rest
      exact ⟨rfl, rfl, rfl⟩

/-- A call that comes to its end has not failed at first. -/
theorem not_failed {state after next : σ} {items : List α} {error : ε}
    (exhausts : Exhausts call state items (.ok ()) after) :
    call state ≠ some (.error error, next) := by
  intro ran
  -- The failure would be another way to go on.
  cases (exhausts.unique (.failed ran)).2.1

/-- An item that is brought is the first one, and the others come from what its call leaves. -/
theorem of_item {state after next : σ} {items : List α} {last : Except ε Unit} {item : α}
    (exhausts : Exhausts call state items last after)
    (ran : call state = some (.ok (some item), next)) :
    ∃ others, items = item :: others ∧ Exhausts call next others last after := by
  -- The call has one answer, so only an item fits.
  cases exhausts with
  | ended answered => cases ran.symm.trans answered
  | failed answered => cases ran.symm.trans answered
  | item answered behind =>
    cases ran.symm.trans answered
    exact ⟨_, rfl, behind⟩

/-- What comes of a state hangs on the first answer alone. -/
theorem of_same {state other after : σ} {items : List α} {last : Except ε Unit}
    (same : call other = call state) (exhausts : Exhausts call state items last after) :
    Exhausts call other items last after := by
  cases exhausts with
  | ended answered => exact .ended (same.trans answered)
  | failed answered => exact .failed (same.trans answered)
  | item answered behind => exact .item (same.trans answered) behind

/-- A call that always answers comes to its end, if each item that it brings leaves less. -/
theorem of_answered {size : σ → Nat × Nat} {Kept : σ → Prop} {Allowed : ε → Prop}
    (answers : ∀ state, Kept state → Answered Kept Allowed (call state))
    (consumes : Consumes call size) {state : σ} (kept : Kept state) :
    ∃ items last after, Exhausts call state items last after ∧
      ∀ error, last = .error error → Allowed error := by
  -- The induction is on what is left, of which each item takes a part.
  induction sized : size state using (Prod.lex Nat.lt_wfRel Nat.lt_wfRel).wf.induction
    generalizing state with
  | h left ih =>
    have answered := answers state kept
    generalize ran : call state = result at answered
    cases answered with
    | error allowed kept =>
      refine ⟨[], _, _, .failed ran, fun error same => ?_⟩
      cases same
      exact allowed
    | @ok value next kept => cases value with
      | none => exact ⟨[], _, _, .ended ran, fun error same => nomatch same⟩
      | some item =>
        -- What the item leaves is less, and of the same kind.
        obtain ⟨items, last, after, behind, allowed⟩ :=
          ih _ (sized ▸ consumes _ _ _ ran) kept rfl
        exact ⟨item :: items, last, after, .item ran behind, allowed⟩

end

end Exhausts

/-- The items that a call brings which is made again and again, until it brings none. -/
def itemsOf {σ ε α : Type} {call : σ → Option (Except ε (Option α) × σ)} {size : σ → Nat × Nat}
    (consumes : Consumes call size) (state : σ) : List α :=
  match _ran : call state with
  | some (.ok (some item), next) => item :: itemsOf consumes next
  | _ => []
termination_by size state
decreasing_by exact consumes _ _ _ _ran

section

variable {σ ε α : Type} {call : σ → Option (Except ε (Option α) × σ)} {size : σ → Nat × Nat}
  (consumes : Consumes call size)

/-- An item comes before those that its call leaves. -/
theorem itemsOf_item {state next : σ} {item : α}
    (answered : call state = some (.ok (some item), next)) :
    itemsOf consumes state = item :: itemsOf consumes next := by
  -- The answer that is found is the one that is known.
  rw [itemsOf]
  split
  · rename_i found
    cases answered.symm.trans found
    rfl
  · rename_i other
    exact absurd answered (other _ _)

/-- Where a call brings no item, there are none. -/
theorem itemsOf_bare {state : σ}
    (bare : ∀ item next, call state ≠ some (.ok (some item), next)) :
    itemsOf consumes state = [] := by
  rw [itemsOf]
  -- An answer without an item ends the items.
  split
  · rename_i found
    exact absurd found (bare _ _)
  · rfl

/-- Which items come hangs on the first answer alone. -/
theorem itemsOf_of_same {one other : σ} (same : call one = call other) :
    itemsOf consumes one = itemsOf consumes other := by
  -- Both bring no item, or the same one and go on from the same state.
  by_cases bare : ∀ item next, call one ≠ some (.ok (some item), next)
  · rw [itemsOf_bare _ bare, itemsOf_bare _ fun item next => same ▸ bare item next]
  · obtain ⟨item, next, ran⟩ : ∃ item next, call one = some (.ok (some item), next) := by
      simpa using bare
    rw [itemsOf_item _ ran, itemsOf_item _ (same.symm.trans ran)]

end

end EngineClient
