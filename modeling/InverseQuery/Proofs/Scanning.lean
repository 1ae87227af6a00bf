import InverseQuery.Proofs.NameGrammar
import InverseQuery.Proofs.RecordReading
import InverseQuery.Request.Handling

/-! What a request finds from its cursor on, apart from what it then does about it.
Handling is that search followed by a decision, and the search sees nothing of a message before the
cursor.
-/

namespace InverseQuery

-----------------------------------------------------------------------------------------
-- Octets that are the same in a region
-----------------------------------------------------------------------------------------

namespace Octets

/-- The octets are the same at every position of a region, where also both may be missing. -/
def AgreeOn (region : Nat → Prop) (first second : Octets) : Prop :=
  ∀ position, region position → first[position]? = second[position]?

namespace AgreeOn

variable {region : Nat → Prop} {first second : Octets} {limit : Nat}

/-- Strings that end alike before `limit` have the same octets from `start` up to `stop`, if they
agree on the positions between that both of them have.
-/
theorem window_eq (agree : AgreeOn region first second)
    (bound : min limit first.length = min limit second.length) {start stop : Nat}
    (before : stop ≤ limit)
    (inside
      : ∀ position, start ≤ position → position < min stop first.length → region position)
    : first.window start stop = second.window start stop := by
  apply List.ext_getElem?
  intro index
  simp only [window, List.getElem?_drop, List.getElem?_take]
  split
  next earlier =>
    rcases Nat.lt_or_ge (start + index) first.length with present | absent
    · exact agree _ (inside _ (Nat.le_add_right ..) (Nat.lt_min.mpr ⟨earlier, present⟩))
    · have absent' : second.length ≤ start + index := by omega
      rw [List.getElem?_eq_none absent, List.getElem?_eq_none absent']
  next => rfl

/-- Of a word only its two octets count. -/
theorem wordBefore?_eq (agree : AgreeOn region first second)
    (bound : min limit first.length = min limit second.length) {position : Nat}
    (inside
      : position + 2 ≤ min limit first.length → region position ∧ region (position + 1))
    : first.wordBefore? limit position = second.wordBefore? limit position := by
  rcases Nat.lt_or_ge (min limit first.length) (position + 2) with short | room
  · rw [wordBefore?_eq_none_iff.mpr short, wordBefore?_eq_none_iff.mpr (bound ▸ short)]
  · obtain ⟨high, low⟩ := inside room
    rw [wordBefore?_of_le room, wordBefore?_of_le (bound ▸ room), word?_eq_bind, word?_eq_bind,
      agree _ high, agree _ low]

end AgreeOn

/-- Messages of the same length with the same octets from `start` on. -/
structure AgreeFrom (start : Nat) (first second : Octets) : Prop where
  length : first.length = second.length
  tail : AgreeOn (start ≤ ·) first second

namespace AgreeFrom

variable {start position : Nat} {first second : Octets}

theorem refl (start : Nat) (octets : Octets) : AgreeFrom start octets octets :=
  ⟨rfl, fun _ _ => rfl⟩

theorem window_eq (h : AgreeFrom start first second) (later : start ≤ position) (stop : Nat)
    : first.window position stop = second.window position stop :=
  h.tail.window_eq (congrArg (min stop) h.length) (Nat.le_refl stop)
    fun _ inside _ => Nat.le_trans later inside

theorem wordBefore?_eq (h : AgreeFrom start first second) (later : start ≤ position) (limit : Nat)
    : first.wordBefore? limit position = second.wordBefore? limit position :=
  h.tail.wordBefore?_eq (congrArg (min limit) h.length)
    fun _ => ⟨later, Nat.le_succ_of_le later⟩

/-- A change of the response code is not seen from the end of the header on. -/
theorem writeResponseCode (octets : Octets) (code : ResponseCode)
    : AgreeFrom Header.size (Header.writeResponseCode octets code) octets where
  length := Header.length_writeResponseCode octets code
  tail position after :=
    List.getElem?_modify_ne _ _ (Nat.ne_of_lt (Nat.lt_of_lt_of_le (by decide) after))

end AgreeFrom

end Octets

-----------------------------------------------------------------------------------------
-- The search sees nothing before the cursor
-----------------------------------------------------------------------------------------

/-- What is found from a cursor on. -/
inductive Scan where
  /-- No name stands at the cursor. -/
  | nameless
  /-- A name stands there, but no record that ends the message; reading stopped at `cursor`. -/
  | misfit (cursor : Cursor)
  /-- A name up to `nameEnd` and a record up to `cursor`, where the message ends. -/
  | entry (record : RecordFields) (nameEnd cursor : Cursor)

namespace Scan

/-- The record that was found. -/
def record? : Scan → Option RecordFields
  | nameless => none
  | misfit _ => none
  | entry record _ _ => some record

theorem exists_of_record? {scan : Scan} {record : RecordFields} (h : scan.record? = some record)
    : ∃ nameEnd stopped, scan = entry record nameEnd stopped := by
  cases scan with
  | nameless => cases h
  | misfit stopped => cases h
  | entry found nameEnd stopped =>
      cases h
      exact ⟨nameEnd, stopped, rfl⟩

/-- Searches a message that ends at `limit` from a cursor on. -/
def ofOctets (skipName : NameSkipper) (octets : Octets) (limit : Nat) (cursor : Cursor) : Scan :=
  match skipName octets cursor.position limit with
  | .error _ => nameless
  | .ok length =>
      match RecordFields.readLast octets limit (cursor.advance length) with
      | .error _ stopped => misfit stopped
      | .ok record stopped => entry record (cursor.advance length) stopped

variable {skipName : NameSkipper} {octets : Octets} {limit : Nat} {cursor stopped : Cursor}

theorem ofOctets_of_ok {length : Nat} (skipped : skipName octets cursor.position limit = .ok length)
    : ofOctets skipName octets limit cursor
      = match RecordFields.readLast octets limit (cursor.advance length) with
        | .error _ stopped => misfit stopped
        | .ok record stopped => entry record (cursor.advance length) stopped := by
  simp only [ofOctets, skipped]

theorem ofOctets_eq_nameless_iff
    : ofOctets skipName octets limit cursor = nameless
      ↔ ∃ fault, skipName octets cursor.position limit = .error fault := by
  unfold ofOctets
  cases skipName octets cursor.position limit with
  | error fault => simp
  | ok length =>
      dsimp only
      cases RecordFields.readLast octets limit (cursor.advance length) <;> simp

theorem ofOctets_eq_misfit_iff
    : ofOctets skipName octets limit cursor = misfit stopped
      ↔ ∃ length fault,
          skipName octets cursor.position limit = .ok length
          ∧ RecordFields.readLast octets limit (cursor.advance length) = .error fault stopped := by
  unfold ofOctets
  cases skipName octets cursor.position limit with
  | error fault => simp
  | ok length =>
      dsimp only
      cases read : RecordFields.readLast octets limit (cursor.advance length) <;> simp [read]

theorem ofOctets_eq_entry_iff {record : RecordFields} {nameEnd : Cursor}
    : ofOctets skipName octets limit cursor = entry record nameEnd stopped
      ↔ ∃ length,
          skipName octets cursor.position limit = .ok length
          ∧ nameEnd = cursor.advance length
          ∧ RecordFields.readLast octets limit nameEnd = .ok record stopped := by
  unfold ofOctets
  cases skipName octets cursor.position limit with
  | error fault => simp
  | ok length =>
      dsimp only
      cases read : RecordFields.readLast octets limit (cursor.advance length) with
      | error fault next => grind
      | ok found next => grind

/-- At the limit nothing is left, so no name is found there. -/
theorem ofOctets_of_limit (last : cursor.position = limit)
    : ofOctets EncodedName.skip octets limit cursor = nameless := by
  apply ofOctets_eq_nameless_iff.mpr
  refine ⟨.malformedName cursor.position, EncodedName.skip_eq_error_iff.mpr ⟨?_, rfl⟩⟩
  intro length stands
  have positive := stands.one_le
  have inside := stands.1
  omega

/-- A search that ends at a misfit does not move back. -/
theorem le_of_misfit (h : ofOctets skipName octets limit cursor = misfit stopped)
    : cursor.position ≤ stopped.position := by
  obtain ⟨length, fault, _, failed⟩ := ofOctets_eq_misfit_iff.mp h
  have further := (RecordFields.forward_readLast octets limit).le_of_error failed
  exact Nat.le_trans (cursor.le_position_advance length) further

/-- A record that was found ends at the limit, and its name ends in order before that and inside
the message.
-/
theorem entry_bounds {record : RecordFields} {nameEnd : Cursor}
    (h : ofOctets skipName octets limit cursor = entry record nameEnd stopped)
    : stopped.position = limit
      ∧ cursor.position ≤ nameEnd.position
      ∧ nameEnd.position ≤ stopped.position
      ∧ nameEnd.position + 2 ≤ octets.length := by
  obtain ⟨length, _, rfl, read⟩ := ofOctets_eq_entry_iff.mp h
  obtain ⟨found, rfl, last⟩ := RecordFields.readLast_eq_ok_iff.mp read
  have room := Octets.le_of_wordBefore? found.typeCode
  exact ⟨last, cursor.le_position_advance length, Cursor.le_position_advance _ _,
    Nat.le_trans room (Nat.min_le_right ..)⟩

/-- The search does not see what stands before the cursor. -/
theorem ofOctets_congr {start : Nat} {first second : Octets}
    (agree : Octets.AgreeFrom start first second) (later : start ≤ cursor.position)
    : ofOctets EncodedName.skip first limit cursor
      = ofOctets EncodedName.skip second limit cursor := by
  have skipped : EncodedName.skip first cursor.position limit
      = EncodedName.skip second cursor.position limit := by
    simp only [EncodedName.skip, agree.window_eq later]
  have read (length : Nat)
      : RecordFields.readLast first limit (cursor.advance length)
        = RecordFields.readLast second limit (cursor.advance length) := by
    apply RecordFields.readLast_congr
    intro passed _
    rw [Cursor.advance_advance]
    exact agree.wordBefore?_eq (Nat.le_trans later (cursor.le_position_advance _)) limit
  simp only [ofOctets, skipped, read]

end Scan

-----------------------------------------------------------------------------------------
-- Handling is the search and a decision
-----------------------------------------------------------------------------------------

namespace Request

/-- The request for the message that a string of octets makes, before it is handled. -/
def fresh (octets : Octets) (capacity : Nat) : Request :=
  .ofMessage (.ofOctets octets) (.empty capacity)

/-- What a request finds at its cursor. -/
def scan (request : Request) (skipName : NameSkipper) : Scan :=
  .ofOctets skipName request.message.octets request.limit request.cursor

/-- A request whose message was found malformed. -/
def malformed (request : Request) (notice : Notice) : Request :=
  { request with
    message := request.message.setResponseCode .formatError
    notices := request.notices ++ [notice] }

theorem responseCode_malformed (request : Request) (notice : Notice)
    : (request.malformed notice).responseCode = .formatError :=
  Header.responseCode_setResponseCode request.message.header .formatError

/-- The response code is 1, in the low four bits of its octet. -/
theorem storage_malformed (request : Request) (notice : Notice)
    : (request.malformed notice).message.storage
      = request.message.storage.modify 3 fun flags => (flags &&& 0xF0) ||| 1 :=
  rfl

/-- A request that read a record to its end. -/
def decoded (request : Request) (record : RecordFields) (stopped : Cursor) : Request :=
  { request with cursor := stopped, record := some record }

/-- A request that accepted the record that it read. -/
def accepted (request : Request) (record : RecordFields) (stopped : Cursor) : Request :=
  (request.decoded record stopped).report (.accepted record.classCode record.typeCode)

/-- A request whose name, which ends at `nameEnd`, was copied. -/
def copied (request : Request) (record : RecordFields) (nameEnd : Nat) : Request :=
  { request with
    answer := request.answer.overwrite (request.message.octets.window Header.size nameEnd)
    extraction := some
      { nameStart := Header.size
        length := nameEnd - Header.size
        dataOffset := (nameEnd - Header.size : Nat) - record.dataLength.toNat }
    cursor := .ofNat Header.size
    remaining := request.remaining - Header.size
    notices := request.notices ++ [.copying (nameEnd - Header.size) request.answer.capacity] }

/-- What becomes of a request whose name, which ends at `nameEnd`, is to be copied. -/
def extracted (request : Request) (record : RecordFields) (nameEnd : Nat) : Verdict × Request :=
  if Header.size ≤ nameEnd ∧ nameEnd ≤ request.message.length then
    if nameEnd - Header.size ≤ request.answer.capacity then
      (.finish, request.copied record nameEnd)
    else (.handBack, request.report .answerOverflow)
  else (.finish, request.malformed .nameProblem)

/-- Extraction copies a name that starts after the header and fits the answer. -/
theorem extractName_eq {request : Request} (record : RecordFields) {nameEnd : Nat}
    (passed : nameEnd ≤ request.cursor.position)
    : request.extractName record nameEnd passed = request.extracted record nameEnd := by
  unfold extractName extracted
  split
  next cut =>
    have outside := Octets.slice?_eq_none_iff.mp cut
    rw [Message.length_octets] at outside
    rw [if_neg outside]
    rfl
  next name cut =>
    obtain ⟨inside, rfl⟩ := Octets.slice?_eq_some_iff.mp cut
    have length : (request.message.octets.window Header.size nameEnd).length
        = nameEnd - Header.size := by
      rw [Octets.length_window, Nat.min_eq_left inside.2]
    rw [Message.length_octets] at inside
    rw [if_pos inside]
    rcases Nat.lt_or_ge request.answer.capacity (nameEnd - Header.size) with long | fits
    · rw [if_neg (Nat.not_le.mpr long), Answer.copy_of_lt (by rwa [length])]
    · have kept : (request.answer.overwrite
          (request.message.octets.window Header.size nameEnd)).capacity
          = request.answer.capacity := Answer.capacity_overwrite (by rwa [length])
      rw [if_pos fits, Answer.copy_of_le (by rwa [length])]
      simp only [copied, report, length, kept, Cursor.rewind_eq]

/-- Accepting a record changes neither the message nor the answer that extraction depends on. -/
theorem extracted_accepted (request : Request) (record : RecordFields) (stopped : Cursor)
    (nameEnd : Nat)
    : (request.accepted record stopped).extracted record nameEnd
      = if Header.size ≤ nameEnd ∧ nameEnd ≤ request.message.length then
          if nameEnd - Header.size ≤ request.answer.capacity then
            (.finish, (request.accepted record stopped).copied record nameEnd)
          else (.handBack, (request.accepted record stopped).report .answerOverflow)
        else (.finish, (request.accepted record stopped).malformed .nameProblem) :=
  rfl

/-- The ways in which a request is handled, each with what was found and what becomes of it. -/
inductive Handled (policy : Policy) (skipName : NameSkipper) (request : Request)
    : Verdict × Request → Prop
  | nameless (found : request.scan skipName = .nameless)
    : Handled policy skipName request (.finish, request.malformed .nameProblem)
  | misfit {stopped : Cursor} (found : request.scan skipName = .misfit stopped)
    : Handled policy skipName request
        (.finish, { request with cursor := stopped }.malformed .lengthOff)
  | refused {record : RecordFields} {nameEnd stopped : Cursor}
    (found : request.scan skipName = .entry record nameEnd stopped)
    (declined : ¬ (record.recordType? = some .a ∧ policy.enabled))
    : Handled policy skipName request (.refuse, request.decoded record stopped)
  | early {record : RecordFields} {nameEnd stopped : Cursor}
    (found : request.scan skipName = .entry record nameEnd stopped)
    (approved : record.recordType? = some .a ∧ policy.enabled)
    (before : nameEnd.position < Header.size)
    : Handled policy skipName request
        (.finish, (request.accepted record stopped).malformed .nameProblem)
  | overflow {record : RecordFields} {nameEnd stopped : Cursor}
    (found : request.scan skipName = .entry record nameEnd stopped)
    (approved : record.recordType? = some .a ∧ policy.enabled)
    (after : Header.size ≤ nameEnd.position)
    (long : request.answer.capacity < nameEnd.position - Header.size)
    : Handled policy skipName request
        (.handBack, (request.accepted record stopped).report .answerOverflow)
  | copied {record : RecordFields} {nameEnd stopped : Cursor}
    (found : request.scan skipName = .entry record nameEnd stopped)
    (approved : record.recordType? = some .a ∧ policy.enabled)
    (after : Header.size ≤ nameEnd.position)
    (fits : nameEnd.position - Header.size ≤ request.answer.capacity)
    : Handled policy skipName request
        (.finish, (request.accepted record stopped).copied record nameEnd.position)

/-- Handling is a search and then a decision on what was found. -/
theorem handle_eq (request : Request) (policy : Policy) (skipName : NameSkipper)
    : request.handle policy skipName
      = match request.scan skipName with
        | .nameless => (.finish, request.malformed .nameProblem)
        | .misfit stopped => (.finish, { request with cursor := stopped }.malformed .lengthOff)
        | .entry record nameEnd stopped =>
            if record.recordType? = some .a ∧ policy.enabled then
              (request.accepted record stopped).extracted record nameEnd.position
            else (.refuse, request.decoded record stopped) := by
  unfold handle scan Scan.ofOctets
  dsimp only
  cases skipName request.message.octets request.cursor.position request.limit with
  | error fault => rfl
  | ok length =>
      dsimp only
      split
      next fault stopped read =>
        rw [read]
        rfl
      next record stopped read =>
        have ordered : (request.cursor.advance length).position ≤ stopped.position :=
          (RecordFields.forward_readLast request.message.octets request.limit).le_of_ok read
        have extracts : (request.accepted record stopped).extractName record _ ordered = _ :=
          extractName_eq record ordered
        simp only [read, ← extracts]
        rfl

/-- A record was found inside the message, so its name ends there too. -/
theorem nameEnd_le_length {request : Request} {skipName : NameSkipper} {record : RecordFields}
    {nameEnd stopped : Cursor} (found : request.scan skipName = .entry record nameEnd stopped)
    : nameEnd.position ≤ request.message.length := by
  obtain ⟨_, _, _, room⟩ := Scan.entry_bounds found
  rw [Message.length_octets] at room
  exact Nat.le_of_add_right_le room

/-- So as many octets are copied as lie between the header and the end of the name. -/
theorem length_name {request : Request} {skipName : NameSkipper} {record : RecordFields}
    {nameEnd stopped : Cursor} (found : request.scan skipName = .entry record nameEnd stopped)
    : (request.message.octets.window Header.size nameEnd.position).length
      = nameEnd.position - Header.size := by
  rw [Octets.length_window, Message.length_octets, Nat.min_eq_left (nameEnd_le_length found)]

/-- Every request is handled in one of these ways, by cases on what was found. -/
theorem handled (request : Request) (policy : Policy) (skipName : NameSkipper)
    : Handled policy skipName request (request.handle policy skipName) := by
  rw [handle_eq]
  cases found : request.scan skipName with
  | nameless => exact .nameless found
  | misfit stopped => exact .misfit found
  | entry record nameEnd stopped =>
      dsimp only
      split
      next approved =>
        rw [extracted_accepted]
        rcases Nat.lt_or_ge nameEnd.position Header.size with before | after
        · rw [if_neg (fun ordered => absurd ordered.1 (Nat.not_le.mpr before))]
          exact .early found approved before
        · rw [if_pos ⟨after, nameEnd_le_length found⟩]
          split
          next fits => exact .copied found approved after fits
          next long => exact .overflow found approved after (Nat.lt_of_not_le long)
      next declined => exact .refused found declined

/-- The ways exclude one another, since each fixes what handling gives. -/
theorem Handled.eq {request : Request} {policy : Policy} {skipName : NameSkipper}
    {outcome : Verdict × Request} (h : Handled policy skipName request outcome)
    : request.handle policy skipName = outcome := by
  rw [handle_eq]
  cases h with
  | nameless found => rw [found]
  | misfit found => rw [found]
  | refused found declined => rw [found]; exact if_neg declined
  | early found approved before =>
      rw [found]
      dsimp only
      rw [if_pos approved, extracted_accepted,
        if_neg (fun ordered => absurd ordered.1 (Nat.not_le.mpr before))]
  | overflow found approved after long =>
      rw [found]
      dsimp only
      rw [if_pos approved, extracted_accepted, if_pos ⟨after, nameEnd_le_length found⟩]
      exact if_neg (Nat.not_le.mpr long)
  | copied found approved after fits =>
      rw [found]
      dsimp only
      rw [if_pos approved, extracted_accepted, if_pos ⟨after, nameEnd_le_length found⟩]
      exact if_pos fits

end Request

end InverseQuery
