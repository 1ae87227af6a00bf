import InverseQuery.Proofs.RecordDecoding

/-! Where any sequence of reads, skips and rewinds leads a cursor, in exact numbers.
A read that fails might as well not have been tried, and only a rewind leads back. So words that
were written one after the other are read in order.
-/

namespace InverseQuery

-----------------------------------------------------------------------------------------
-- One step
-----------------------------------------------------------------------------------------

/-- What a step from a position gives and which position it leads to. A word is read if both its
octets stand before the limit and in the message, a skip stops at the largest position, and a
rewind never leads forward.
-/
inductive CursorMove (message : Octets) (position : Nat)
    : CursorStep → CursorResult → Nat → Prop
  | word {limit : Nat} {high low : UInt8} {word : UInt16}
    (room : position + 2 ≤ min limit message.length) (first : message[position]? = some high)
    (second : message[position + 1]? = some low)
    (value : word.toNat = 256 * high.toNat + low.toNat)
    : CursorMove message position (.readWord limit) (.word word) (position + 2)
  | truncated {limit : Nat} (short : min limit message.length < position + 2)
    : CursorMove message position (.readWord limit) (.fault (.truncated position 2)) position
  | skipped (count : Nat)
    : CursorMove message position (.skip count) .done (min (position + count) 0xFFFFFFFFFFFFFFFF)
  | rewound {target : Nat} (back : target ≤ position)
    : CursorMove message position (.rewind target) .done target

/-- A step leads to one position, with one result. -/
theorem CursorMove.unique {message : Octets} {position next next' : Nat} {step : CursorStep}
    {result result' : CursorResult} (h : CursorMove message position step result next)
    (h' : CursorMove message position step result' next')
    : result = result' ∧ next = next' := by
  cases h with
  | word room first second value =>
      cases h' with
      | word _ first' second' value' =>
          rw [first, Option.some_inj] at first'
          rw [second, Option.some_inj] at second'
          subst first' second'
          exact ⟨congrArg _ (UInt16.toNat_inj.mp (value.trans value'.symm)), rfl⟩
      | truncated short => exact absurd room (Nat.not_le.mpr short)
  | truncated short =>
      cases h' with
      | word room => exact absurd room (Nat.not_le.mpr short)
      | truncated => exact ⟨rfl, rfl⟩
  | skipped => cases h' with | skipped => exact ⟨rfl, rfl⟩
  | rewound => cases h' with | rewound => exact ⟨rfl, rfl⟩

/-- Where there is room for a word, it is made up of the two octets that stand there. -/
theorem Octets.exists_octets_of_room {message : Octets} {position : Nat}
    (room : position + 2 ≤ message.length)
    : ∃ high low,
        message[position]? = some high
        ∧ message[position + 1]? = some low
        ∧ message.word? position = some (joinWord high low) := by
  have first : message[position]? = some message[position] := List.getElem?_eq_getElem (by omega)
  have second : message[position + 1]? = some message[position + 1] :=
    List.getElem?_eq_getElem (by omega)
  refine ⟨_, _, first, second, ?_⟩
  rw [word?_eq_bind, first, second]
  rfl

namespace Cursor

variable {message : Octets} {limit : Nat} {cursor : Cursor}

theorem step_readWord_of_found {word : UInt16}
    (found : message.wordBefore? limit cursor.position = some word)
    : cursor.step message (.readWord limit) = (.word word, cursor.advance 2) := by
  simp only [step, readWord_eq, found]

/-- A read without room for its word leaves the cursor where it is. -/
theorem step_readWord_of_short (short : min limit message.length < cursor.position + 2)
    : cursor.step message (.readWord limit)
      = (.fault (.truncated cursor.position 2), cursor) := by
  simp only [step, readWord_eq, Octets.wordBefore?_eq_none_iff.mpr short]

/-- If a step is a rewind, it does not lead forward. -/
def LeadsBack (cursor : Cursor) (step : CursorStep) : Prop :=
  ∀ target, step = .rewind target → target ≤ cursor.position

/-- Every step of a cursor is an exact one, by cases on the step. -/
theorem step_moves (range : message.length ≤ Octets.longest) {step : CursorStep}
    (back : cursor.LeadsBack step)
    : CursorMove message cursor.position step (cursor.step message step).1
        (cursor.step message step).2.position := by
  cases step with
  | readWord limit =>
      obtain short | room := Nat.lt_or_ge (min limit message.length) (cursor.position + 2)
      · rw [step_readWord_of_short short]
        exact .truncated short
      · obtain ⟨high, low, first, second, word⟩ :=
          Octets.exists_octets_of_room (Nat.le_trans room (Nat.min_le_right ..))
        rw [← Octets.wordBefore?_of_le room] at word
        have position : (cursor.advance 2).position = cursor.position + 2 :=
          position_advance_of_longest (by omega) (by decide)
        rw [step_readWord_of_found word, position]
        exact .word room first second (Octets.toNat_joinWord high low)
  | skip count => exact .skipped count
  | rewind target =>
      have earlier : target ≤ cursor.position := back target rfl
      have led
          : cursor.step message (.rewind target) = (.done, cursor.rewind target earlier) := by
        simp only [step, rewind?_of_le earlier]
      rw [led]
      exact .rewound earlier

/-- Nothing but a rewind leads back. -/
theorem le_position_step {step : CursorStep} (forward : ∀ target, step ≠ .rewind target)
    : cursor.position ≤ (cursor.step message step).2.position := by
  cases step with
  | readWord limit =>
      cases found : message.wordBefore? limit cursor.position with
      | none =>
          have stays := step_readWord_of_short (Octets.wordBefore?_eq_none_iff.mp found)
          exact Nat.le_of_eq (congrArg (·.2.position) stays.symm)
      | some word =>
          rw [step_readWord_of_found found]
          exact le_position_advance cursor 2
  | skip count => exact le_position_advance cursor count
  | rewind target => exact absurd rfl (forward target)

-----------------------------------------------------------------------------------------
-- Runs of steps
-----------------------------------------------------------------------------------------

/-- What each of some steps gives, with the cursor after it. -/
def run (message : Octets) (cursor : Cursor) : List CursorStep → List (CursorResult × Cursor)
  | [] => []
  | step :: steps => cursor.step message step :: run message (cursor.step message step).2 steps

/-- The cursor after some steps. -/
def after (message : Octets) (cursor : Cursor) (steps : List CursorStep) : Cursor :=
  steps.foldl (fun cursor step => (cursor.step message step).2) cursor

/-- No rewind among some steps leads forward. -/
def RewindsBack (message : Octets) (cursor : Cursor) : List CursorStep → Prop
  | [] => True
  | step :: steps =>
      cursor.LeadsBack step ∧ RewindsBack message (cursor.step message step).2 steps

theorem run_append (message : Octets) (cursor : Cursor) (steps more : List CursorStep)
    : run message cursor (steps ++ more)
      = run message cursor steps ++ run message (after message cursor steps) more := by
  induction steps generalizing cursor with
  | nil => rfl
  | cons step steps ih => exact congrArg (_ :: ·) (ih (cursor.step message step).2)

theorem after_append (message : Octets) (cursor : Cursor) (steps more : List CursorStep)
    : after message cursor (steps ++ more)
      = after message (after message cursor steps) more :=
  List.foldl_append

end Cursor

/-- The results of some steps from a position, with the position after each. -/
inductive CursorTrace (message : Octets)
    : Nat → List CursorStep → List (CursorResult × Nat) → Prop
  | nil (position : Nat) : CursorTrace message position [] []
  | cons {position next : Nat} {step : CursorStep} {steps : List CursorStep}
    {result : CursorResult} {rest : List (CursorResult × Nat)}
    (move : CursorMove message position step result next)
    (tail : CursorTrace message next steps rest)
    : CursorTrace message position (step :: steps) ((result, next) :: rest)

/-- Some steps have one trace, by induction over them. -/
theorem CursorTrace.unique {message : Octets} {position : Nat} {steps : List CursorStep}
    {trace trace' : List (CursorResult × Nat)} (h : CursorTrace message position steps trace)
    (h' : CursorTrace message position steps trace')
    : trace = trace' := by
  induction h generalizing trace' with
  | nil => cases h' with | nil => rfl
  | cons move _ ih =>
      cases h' with
      | cons move' tail' =>
          obtain ⟨rfl, rfl⟩ := move.unique move'
          exact congrArg _ (ih tail')

namespace Cursor

variable {message : Octets} {cursor : Cursor} {steps : List CursorStep}

def positions (trace : List (CursorResult × Cursor)) : List (CursorResult × Nat) :=
  trace.map fun entry => (entry.1, entry.2.position)

/-- The results and positions of a run are those of exact steps, by induction over the steps. -/
theorem run_traces (range : message.length ≤ Octets.longest)
    (back : RewindsBack message cursor steps)
    : CursorTrace message cursor.position steps (positions (run message cursor steps)) := by
  induction steps generalizing cursor with
  | nil => exact .nil cursor.position
  | cons step steps ih => exact .cons (step_moves range back.1) (ih back.2)

/-- Steps among which there is no rewind do not lead back, by induction over them. -/
theorem le_position_after (forward : ∀ target, .rewind target ∉ steps)
    : cursor.position ≤ (after message cursor steps).position := by
  induction steps generalizing cursor with
  | nil => exact Nat.le_refl _
  | cons step steps ih =>
      have first : cursor.position ≤ (cursor.step message step).2.position :=
        le_position_step fun target same => forward target (same ▸ List.mem_cons_self)
      exact Nat.le_trans first
        (ih fun target member => forward target (List.mem_cons_of_mem step member))

/-- However often a read fails for want of octets, the cursor stays where it is. -/
theorem run_short {limits : List Nat}
    (short : ∀ limit ∈ limits, min limit message.length < cursor.position + 2)
    : run message cursor (limits.map .readWord)
        = limits.map (fun _ => (.fault (.truncated cursor.position 2), cursor))
      ∧ after message cursor (limits.map .readWord) = cursor := by
  induction limits with
  | nil => exact ⟨rfl, rfl⟩
  | cons limit limits ih =>
      obtain ⟨ran, stays⟩ := ih fun other member => short other (List.mem_cons_of_mem limit member)
      have failed := step_readWord_of_short (short limit List.mem_cons_self)
      simp only [List.map_cons, run, after, List.foldl_cons, failed]
      exact ⟨congrArg _ ran, stays⟩

/-- A read that failed for want of octets succeeds as soon as there is room for its word. -/
theorem run_retried (range : message.length ≤ Octets.longest) {limits : List Nat} {limit : Nat}
    (short : ∀ early ∈ limits, min early message.length < cursor.position + 2)
    (room : cursor.position + 2 ≤ min limit message.length)
    : ∃ high low word next,
        message[cursor.position]? = some high
        ∧ message[cursor.position + 1]? = some low
        ∧ word.toNat = 256 * high.toNat + low.toNat
        ∧ next.position = cursor.position + 2
        ∧ run message cursor (limits.map .readWord ++ [.readWord limit])
          = limits.map (fun _ => (.fault (.truncated cursor.position 2), cursor))
            ++ [(.word word, next)] := by
  obtain ⟨ran, stays⟩ := run_short short
  obtain ⟨high, low, first, second, found⟩ :=
    Octets.exists_octets_of_room (Nat.le_trans room (Nat.min_le_right ..))
  rw [← Octets.wordBefore?_of_le room] at found
  have position : (cursor.advance 2).position = cursor.position + 2 :=
    position_advance_of_longest (by omega) (by decide)
  refine ⟨high, low, _, _, first, second, Octets.toNat_joinWord high low, position, ?_⟩
  rw [run_append, ran, stays, run, run, step_readWord_of_found found]

-----------------------------------------------------------------------------------------
-- Words that were written one after the other
-----------------------------------------------------------------------------------------

theorem position_ofNat_length {before rest : Octets}
    (range : (before ++ rest).length ≤ Octets.longest)
    : (ofNat before.length).position = before.length := by
  apply position_ofNat
  rw [List.length_append] at range
  unfold Octets.longest at range
  unfold maximum
  omega

/-- Written words are read in order up to a limit at their end, where every further read fails. The
induction is on the words; one that was read goes over to what stands before the others.
-/
theorem run_written {message : Octets} (range : message.length ≤ Octets.longest)
    {words : List UInt16} {before following : Octets} {limit : Nat}
    (whole : message = before ++ (words.flatMap Octets.ofWord ++ following))
    (ends : limit = before.length + 2 * words.length) (more : Nat)
    : let reads := List.replicate (words.length + more) (.readWord limit)
      (run message (.ofNat before.length) reads).map Prod.fst
        = words.map .word ++ List.replicate more (.fault (.truncated limit 2))
      ∧ (after message (.ofNat before.length) reads).position = limit := by
  induction words generalizing before with
  | nil =>
      intro reads
      obtain rfl : limit = before.length := ends
      have start := position_ofNat_length (whole ▸ range)
      have short : ∀ early ∈ List.replicate more before.length,
          min early message.length < (ofNat before.length).position + 2 := by
        intro early member
        rw [(List.mem_replicate.mp member).2]
        omega
      obtain ⟨ran, stays⟩ := run_short short
      rw [List.map_replicate] at ran stays
      have all : reads = List.replicate more (.readWord before.length) :=
        congrArg (List.replicate · _) (Nat.zero_add more)
      rw [all, ran, stays, start]
      simp only [List.map_replicate, List.map_nil, List.nil_append, and_self]
  | cons word words ih =>
      intro reads
      have start := position_ofNat_length (whole ▸ range)
      have stands : message.word? before.length = some word := by
        rw [whole, List.flatMap_cons, List.append_assoc]
        exact Octets.word?_written before [] word (words.flatMap Octets.ofWord ++ following)
      have room : (ofNat before.length).position + 2 ≤ min limit message.length := by
        have inside := (Octets.word?_isSome_iff message before.length).mp (stands ▸ rfl)
        rw [List.length_cons] at ends
        omega
      have found : message.wordBefore? limit (ofNat before.length).position = some word := by
        rw [Octets.wordBefore?_of_le room, start, stands]
      have moved
          : (ofNat before.length).advance 2 = ofNat (before ++ Octets.ofWord word).length := by
        rw [advance, start, List.length_append, Octets.length_ofWord]
      have whole' : message
          = (before ++ Octets.ofWord word) ++ (words.flatMap Octets.ofWord ++ following) := by
        simp only [whole, List.flatMap_cons, List.append_assoc]
      have ends' : limit = (before ++ Octets.ofWord word).length + 2 * words.length := by
        rw [ends, List.length_append, Octets.length_ofWord, List.length_cons]
        omega
      have all : reads
          = .readWord limit :: List.replicate (words.length + more) (.readWord limit) := by
        rw [← List.replicate_succ, Nat.add_right_comm]
        rfl
      obtain ⟨results, stops⟩ := ih whole' ends'
      rw [all, run, after, List.foldl_cons, step_readWord_of_found found, moved]
      exact ⟨congrArg _ results, stops⟩

/-- The results and positions of a run are those of exact steps and no others. Between two points
of a run the position only grows, unless there is a rewind, and a read that failed for want of octets
is made up for by a later one with a sufficient limit. So words that were written anywhere are read
in order, and then every read fails at their end.
-/
theorem run_exactly
    : (∀ (message : Octets) (start : Cursor) (steps : List CursorStep),
          message.length ≤ Octets.longest
          → RewindsBack message start steps
          → (∀ trace,
                CursorTrace message start.position steps trace
                ↔ trace = positions (run message start steps))
            ∧ (∀ earlier passed,
                earlier ++ passed <+: steps
                → (∀ target, .rewind target ∉ passed)
                → (after message start earlier).position
                  ≤ (after message start (earlier ++ passed)).position)
            ∧ ∀ (limits : List Nat) (limit : Nat),
                let cursor := after message start steps
                let position := cursor.position
                (∀ early ∈ limits, min early message.length < position + 2)
                → position + 2 ≤ min limit message.length
                → ∃ high low word next,
                    message[position]? = some high
                    ∧ message[position + 1]? = some low
                    ∧ word.toNat = 256 * high.toNat + low.toNat
                    ∧ next.position = position + 2
                    ∧ run message cursor (limits.map .readWord ++ [.readWord limit])
                      = limits.map (fun _ => (.fault (.truncated position 2), cursor))
                        ++ [(.word word, next)])
      ∧ ∀ (before : Octets) (words : List UInt16) (following : Octets) (more : Nat),
          let message := before ++ (words.flatMap Octets.ofWord ++ following)
          let limit := before.length + 2 * words.length
          let reads := List.replicate (words.length + more) (.readWord limit)
          message.length ≤ Octets.longest
          → (run message (.ofNat before.length) reads).map Prod.fst
              = words.map .word ++ List.replicate more (.fault (.truncated limit 2))
            ∧ (after message (.ofNat before.length) reads).position = limit := by
  constructor
  · intro message start steps range back
    refine ⟨?_, ?_, ?_⟩
    · intro trace
      have traced := run_traces range back
      exact ⟨fun other => other.unique traced, fun same => same ▸ traced⟩
    · intro earlier passed _ forward
      rw [after_append]
      exact le_position_after forward
    · intro limits limit cursor position short room
      exact run_retried range short room
  · intro before words following more message limit reads range
    exact run_written range rfl rfl more

/-- A word is missed at a low limit and then read, a skip stops at the largest position, and after a
rewind another word is read. Two words are read from between their neighbours.
-/
theorem run_exactly_missed_and_rewound
    : let message : Octets := [0x12, 0x34, 0x56]
      let steps : List CursorStep :=
        [.readWord 1, .readWord 3, .readWord 3, .skip 0xFFFFFFFFFFFFFFFF, .rewind 1, .readWord 9]
      let whole : Octets := [7] ++ ([0x0102, 0xFFFE].flatMap Octets.ofWord ++ [8, 9])
      (message.length ≤ Octets.longest ∧ RewindsBack message (.ofNat 0) steps)
      ∧ CursorTrace message 0 steps
          [
            (.fault (.truncated 0 2), 0),
            (.word 0x1234, 2),
            (.fault (.truncated 2 2), 2),
            (.done, 0xFFFFFFFFFFFFFFFF),
            (.done, 1),
            (.word 0x3456, 3)
          ]
      ∧ whole.length ≤ Octets.longest
      ∧ (run whole (.ofNat 1) (List.replicate 3 (.readWord 5))).map Prod.fst
        = [.word 0x0102, .word 0xFFFE, .fault (.truncated 5 2)] := by
  intro message steps whole
  have range : message.length ≤ Octets.longest := by decide
  have range' : whole.length ≤ Octets.longest := by decide
  have back : RewindsBack message (.ofNat 0) steps := by
    refine ⟨nofun, nofun, nofun, nofun, ?_, nofun, trivial⟩
    rintro target ⟨rfl⟩
    decide
  obtain ⟨exactly, written⟩ := run_exactly
  obtain ⟨traced, _, _⟩ := exactly message (.ofNat 0) steps range back
  obtain ⟨results, _⟩ := written [7] [0x0102, 0xFFFE] [8, 9] 1 range'
  exact ⟨⟨range, back⟩, (traced _).mpr (by decide), range', results⟩

end Cursor

end InverseQuery
