import Grouper.Power.Sysfs
import Mathlib.Data.List.Forall2

/-! The table of processor frequencies that `common_power_open` reads from text files. -/

namespace Grouper.Power

/-- `size`, the length of the buffer. -/
def bufferSize : Nat := 256

/-- `struct powerhal_info`, as far as `common_power_open` reads it from files. -/
structure FrequencyTable where
  numAvailableFrequencies : Int
  availableFrequencies : List Int
  maxFrequency : Int
  lpMaxFrequency : Int
  interactionBoostFrequency : Int
  animationBoostFrequency : Int
  deriving DecidableEq, Repr

/-- The loop that counts the tokens behind the first one. -/
def countTokens : Nat → Option (List UInt8) → Strtok → Int → Except Fault (Int × Strtok)
  | 0, _, _, _ => .error .unending
  | _ + 1, none, t, num => .ok (num, t)
  | fuel + 1, some _, t, num => do
    let (pch, t) ← strtok t
    countTokens fuel pch t (num + 1)

/-- The loop that stores so many frequencies, and reads one token more. -/
def storeFrequencies : Nat → Option (List UInt8) → Strtok → Except Fault (List Int × Strtok)
  | 0, _, t => .ok ([], t)
  | _ + 1, none, _ => .error .nullToken
  | num + 1, some pch, t => do
    let value ← atoi pch
    let (pch, t) ← strtok t
    let (values, t) ← storeFrequencies num pch t
    .ok (value :: values, t)

/-- An element of an array. -/
def elementAt (array : List Int) (index : Int) : Except Fault Int :=
  if 0 ≤ index ∧ index < array.length then .ok (array.getD index.toNat 0)
  else .error .outsideArray

/-- The first frequency that is high enough, or another one. -/
def boostFrequency (available : List Int) (floor otherwise_ : Int) : Int :=
  (available.find? (floor ≤ ·)).getD otherwise_

/-- The number of available frequencies is determined. -/
def determineNumber (buf : List UInt8) : Except Fault (Int × Strtok) := do
  let (pch, t) ← strtok (.start buf)
  -- No buffer has more tokens than characters.
  countTokens (bufferSize + 1) pch t (-1)

/-- Available frequencies are stored in a lookup array. -/
def storeAvailable (num : Nat) (buf : List UInt8) : Except Fault (List Int × Strtok) := do
  let (pch, t) ← strtok (.start buf)
  storeFrequencies num pch t

/-- `common_power_open`, on what its three reads come to. -/
def commonPowerOpen (first second idle : SysfsRead) : Except Fault FrequencyTable := do
  let buf := sysfsRead first (List.replicate bufferSize 0) bufferSize
  let (num, t) ← determineNumber buf
  if num < 0 then .error .negativeSize
  else
    -- The same file is read again, over what is left of it, and then the third over that.
    let buf := sysfsRead second t.buffer bufferSize
    let (available, t) ← storeAvailable num.toNat buf
    let maxFrequency ← elementAt available (num - 1)
    let buf := sysfsRead idle t.buffer bufferSize
    let lpMaxFrequency ← atoi buf
    .ok {
      numAvailableFrequencies := num
      availableFrequencies := available
      maxFrequency
      lpMaxFrequency
      interactionBoostFrequency := boostFrequency available 1200000 lpMaxFrequency
      animationBoostFrequency := boostFrequency available 1000000 lpMaxFrequency }

/-- What the first read leaves in the buffer. -/
def firstBuffer (first : SysfsRead) : List UInt8 :=
  sysfsRead first (List.replicate bufferSize 0) bufferSize

/-- The words in front of the first NUL of it. -/
def firstCount (first : SysfsRead) : Nat := (words space (cString (firstBuffer first))).length

/-- What the second read leaves, once these words were cut off at the spaces behind them. -/
def secondBuffer (first second : SysfsRead) : List UInt8 :=
  sysfsRead second (cutWords space 0 (firstCount first) (firstBuffer first)) bufferSize

/-- What the third read leaves, once as many words were cut off again. -/
def thirdBuffer (first second idle : SysfsRead) : List UInt8 :=
  sysfsRead idle (cutWords space 0 (firstCount first) (secondBuffer first second)) bufferSize

/-- The three files can be read. -/
structure Readable (first second idle : SysfsRead) : Prop where
  terminated : 0 ∈ firstBuffer first
  two : 2 ≤ firstCount first
  /-- The second time at most one word is missing, or every word has a space behind it. -/
  again : 0 ∈ secondBuffer first second ∧
      firstCount first ≤ (words space (cString (secondBuffer first second))).length + 1 ∨
    0 ∉ secondBuffer first second ∧
      firstCount first ≤ (closedWords space (secondBuffer first second)).length
  ends : behindNumber (thirdBuffer first second idle) ≠ []

section Loops

variable {t : Strtok}

/-- Counting a terminated buffer counts its tokens. -/
theorem countTokens_terminated (terminated : t.Terminated) {fuel : Nat}
    (enough : t.tokens.length < fuel) (num : Int) : ∃ next,
      (do let (pch, t) ← strtok t; countTokens fuel pch t num) =
        .ok (num + t.tokens.length, next) ∧ next.buffer = t.cut t.tokens.length := by
  -- Each token found spends one unit of the fuel.
  induction fuel generalizing t num with
  | zero => exact absurd enough (Nat.not_lt_zero _)
  | succ fuel ih =>
    obtain ⟨pointer, next, found, after, tokens, cut, ⟨nothing, rfl, same⟩ | ⟨word, rest, tail,
      here, rfl⟩⟩ := strtok_terminated terminated
    · refine ⟨next, ?_, ?_⟩
      · rw [found, nothing]
        simp [countTokens, Bind.bind, Except.bind]
      · rw [nothing]
        exact same
    · rw [here] at enough tokens ⊢
      rw [List.tail_cons] at tokens
      obtain ⟨last, counted, buffer⟩ := ih after (by rw [tokens]; simpa using enough) (num + 1)
      rw [tokens] at counted buffer
      refine ⟨last, ?_, ?_⟩
      · rw [found]
        refine counted.trans ?_
        rw [List.length_cons]
        congr 2
        omega
      · rw [buffer, cut]
        rfl

/-- Counting a buffer without a NUL leaves it. -/
theorem countTokens_unterminated (unterminated : t.Unterminated) {fuel : Nat}
    (enough : t.closed.length < fuel) (num : Int) :
    (do let (pch, t) ← strtok t; countTokens fuel pch t num) = .error .outsideBuffer := by
  -- The induction is on the fuel; every word but the last one is cut, and the last has no end.
  induction fuel generalizing t num with
  | zero => exact absurd enough (Nat.not_lt_zero _)
  | succ fuel ih =>
    rcases strtok_unterminated unterminated with ⟨_, outside⟩ | ⟨word, tail, next, found, after,
      closed, _⟩
    · rw [outside]
      rfl
    · rw [found]
      refine ih after ?_ (num + 1)
      rw [closed] at enough
      simpa using enough

/-- One round of the loop, followed by the others. -/
theorem storeFrequencies_succ (num : Nat) (pch : List UInt8) (t : Strtok) :
    storeFrequencies (num + 1) (some pch) t = (atoi pch).bind fun value =>
      (do let (pch, t) ← strtok t; storeFrequencies num pch t).bind fun rest =>
        .ok (value :: rest.1, rest.2) := by
  -- A cut that fails ends both sides alike.
  show (atoi pch).bind _ = _
  congr 1
  funext value
  cases strtok t <;> rfl

/-- A token is a number in front of a NUL, wherever that is. -/
def Reads (word : List UInt8) (value : Int) : Prop := ∃ after, atoi (word ++ 0 :: after) = .ok value

/-- Storing from a terminated buffer takes as many tokens as there are. -/
theorem storeFrequencies_terminated (terminated : t.Terminated) {num : Nat}
    (enough : num ≤ t.tokens.length) : ∃ values next,
      (do let (pch, t) ← strtok t; storeFrequencies num pch t) = .ok (values, next) ∧
        List.Forall₂ Reads (t.tokens.take num) values ∧ next.buffer = t.cut (num + 1) := by
  -- Each element stored takes one token, and the loop reads one token more.
  induction num generalizing t with
  | zero =>
    obtain ⟨pointer, next, found, _, _, cut, _⟩ := strtok_terminated terminated
    refine ⟨[], next, ?_, .nil, cut 0⟩
    rw [found]
    rfl
  | succ num ih =>
    obtain ⟨pointer, next, found, after, tokens, cut,
      ⟨nothing, _⟩ | ⟨word, rest, tail, here, rfl⟩⟩ := strtok_terminated terminated
    · -- Without a token there is none to store, and one was asked for.
      rw [nothing] at enough
      exact absurd enough (Nat.not_succ_le_zero num)
    · obtain ⟨value, read⟩ := exists_atoi_token word tail
      rw [here] at enough tokens ⊢
      rw [List.tail_cons] at tokens
      obtain ⟨values, last, stored, all, buffer⟩ :=
        ih after (by rw [tokens]; exact Nat.le_of_succ_le_succ enough)
      rw [tokens] at all
      refine ⟨value :: values, last, ?_, .cons ⟨tail, read⟩ all, buffer.trans (cut _)⟩
      rw [found]
      refine (storeFrequencies_succ num _ next).trans ?_
      rw [read, stored]
      rfl

/-- Where there are fewer tokens, the null pointer is taken for one. -/
theorem storeFrequencies_short (terminated : t.Terminated) {num : Nat}
    (short : t.tokens.length < num) :
    (do let (pch, t) ← strtok t; storeFrequencies num pch t) = .error .nullToken := by
  -- The tokens run out before the elements do, and the null pointer comes in at that element.
  induction num generalizing t with
  | zero => exact absurd short (Nat.not_lt_zero _)
  | succ num ih =>
    obtain ⟨pointer, next, found, after, tokens, _, ⟨_, rfl, _⟩ | ⟨word, rest, tail, here, rfl⟩⟩ :=
      strtok_terminated terminated
    · rw [found]
      rfl
    · obtain ⟨value, read⟩ := exists_atoi_token word tail
      rw [here] at short tokens
      rw [List.tail_cons] at tokens
      have later := ih after (by rw [tokens]; exact Nat.lt_of_succ_lt_succ short)
      rw [found]
      refine (storeFrequencies_succ num _ next).trans ?_
      rw [read, later]
      rfl

/-- Without a NUL, storing takes tokens that have a space behind them. -/
theorem storeFrequencies_closed (unterminated : t.Unterminated) {num : Nat}
    (enough : num < t.closed.length) : ∃ values next,
      (do let (pch, t) ← strtok t; storeFrequencies num pch t) = .ok (values, next) ∧
        values.length = num ∧ next.buffer = t.cut (num + 1) := by
  -- The last round also looks for a token, so one more is needed than there are elements.
  induction num generalizing t with
  | zero =>
    rcases strtok_unterminated unterminated with ⟨closed, _⟩ | ⟨word, tail, next, found, _, _, cut⟩
    · rw [closed] at enough
      exact absurd enough (Nat.not_lt_zero _)
    · rw [found]
      exact ⟨[], next, rfl, rfl, cut 0⟩
  | succ num ih =>
    rcases strtok_unterminated unterminated with ⟨closed, _⟩ | ⟨word, tail, next, found, after,
      closed, cut⟩
    · rw [closed] at enough
      exact absurd enough (Nat.not_lt_zero _)
    · obtain ⟨value, read⟩ := exists_atoi_token word tail
      rw [closed] at enough
      obtain ⟨values, last, stored, length, buffer⟩ := ih after (Nat.lt_of_succ_lt_succ enough)
      refine ⟨value :: values, last, ?_, congrArg (· + 1) length, buffer.trans (cut _)⟩
      rw [found]
      refine (storeFrequencies_succ num _ next).trans ?_
      rw [read, stored]
      rfl

/-- Where there are fewer, the token that is read last leaves the buffer. -/
theorem storeFrequencies_outside (unterminated : t.Unterminated) {num : Nat}
    (short : t.closed.length ≤ num) :
    (do let (pch, t) ← strtok t; storeFrequencies num pch t) = .error .outsideBuffer := by
  -- Behind the last space the search for a token runs over the end.
  induction num generalizing t with
  | zero =>
    rcases strtok_unterminated unterminated with ⟨_, outside⟩ | ⟨word, _, next, _, _, closed, _⟩
    · rw [outside]
      rfl
    · rw [closed] at short
      exact absurd short (Nat.not_succ_le_zero _)
  | succ num ih =>
    rcases strtok_unterminated unterminated with ⟨_, outside⟩ | ⟨word, tail, next, found, after,
      closed, _⟩
    · rw [outside]
      rfl
    · obtain ⟨value, read⟩ := exists_atoi_token word tail
      rw [closed] at short
      have later := ih after (Nat.le_of_succ_le_succ short)
      rw [found]
      refine (storeFrequencies_succ num _ next).trans ?_
      rw [read, later]
      rfl

end Loops

section Open

variable {first second idle : SysfsRead} {buf : List UInt8}

/-- The first read leaves the buffer as long as it was. -/
theorem length_firstBuffer (first : SysfsRead) : (firstBuffer first).length = bufferSize :=
  length_sysfsRead first List.length_replicate (by decide)

/-- The number is that of the words, less one. -/
theorem determineNumber_terminated (zero : 0 ∈ buf) (whole : buf.length = bufferSize) :
    ∃ next, determineNumber buf = .ok (-1 + (words space (cString buf)).length, next) ∧
      next.buffer = cutWords space 0 (words space (cString buf)).length buf := by
  -- Every word takes at least a byte, so the rounds allowed are not used up.
  have fewer : (words space (cString buf)).length ≤ buf.length :=
    Nat.le_trans (length_words_le _) (List.takeWhile_sublist _).length_le
  have enough : (Strtok.start buf).tokens.length < bufferSize + 1 :=
    Nat.lt_succ_of_le (Nat.le_trans fewer (Nat.le_of_eq whole))
  obtain ⟨next, counted, buffer⟩ :=
    countTokens_terminated (Strtok.terminated_start zero) enough (-1)
  exact ⟨next, counted, buffer⟩

/-- Without a NUL in the buffer the counting runs out of it. -/
theorem determineNumber_unterminated (nowhere : 0 ∉ buf) (whole : buf.length = bufferSize) :
    determineNumber buf = .error .outsideBuffer := by
  -- There are fewer words than bytes, so the fuel is enough.
  have enough : (Strtok.start buf).closed.length < bufferSize + 1 :=
    Nat.lt_succ_of_le (Nat.le_trans (length_closedWords_le _) (Nat.le_of_eq whole))
  exact countTokens_unterminated (Strtok.unterminated_start nowhere) enough (-1)

/-- What `common_power_open` comes to when the first read is terminated. -/
theorem commonPowerOpen_terminated (zero : 0 ∈ firstBuffer first) (second idle : SysfsRead) :
    commonPowerOpen first second idle =
      if (-1 + firstCount first : Int) < 0 then .error .negativeSize
      else (storeAvailable (-1 + firstCount first : Int).toNat (secondBuffer first second)).bind
        fun stored => (elementAt stored.1 (-1 + firstCount first - 1)).bind fun maxFrequency =>
          (atoi (sysfsRead idle stored.2.buffer bufferSize)).bind fun lpMaxFrequency =>
            .ok {
              numAvailableFrequencies := -1 + firstCount first
              availableFrequencies := stored.1
              maxFrequency
              lpMaxFrequency
              interactionBoostFrequency := boostFrequency stored.1 1200000 lpMaxFrequency
              animationBoostFrequency := boostFrequency stored.1 1000000 lpMaxFrequency } := by
  obtain ⟨next, determined, buffer⟩ :=
    determineNumber_terminated zero (length_firstBuffer first)
  -- The second read goes over the buffer that counting has cut.
  have second_ : sysfsRead second next.buffer bufferSize = secondBuffer first second := by
    rw [buffer]
    rfl
  unfold commonPowerOpen
  show (determineNumber (firstBuffer first)).bind _ = _
  rw [determined]
  show (if (-1 + firstCount first : Int) < 0 then _ else _) = _
  rw [second_]
  rfl

/-- There are enough tokens for so many elements, and for the token that is read behind them. -/
def Lasts (num : Nat) (buf : List UInt8) : Prop :=
  0 ∈ buf ∧ num ≤ (words space (cString buf)).length ∨
    0 ∉ buf ∧ num < (closedWords space buf).length

/-- Storing fills the array where there are enough tokens. -/
theorem storeAvailable_of_lasts {num : Nat} (lasts : Lasts num buf) : ∃ values next,
    storeAvailable num buf = .ok (values, next) ∧ values.length = num ∧
      next.buffer = cutWords space 0 (num + 1) buf := by
  rcases lasts with ⟨zero, enough⟩ | ⟨nowhere, enough⟩
  · -- In front of a NUL the null pointer that is read last does no harm.
    have enough : num ≤ (Strtok.start buf).tokens.length := enough
    obtain ⟨values, next, stored, all, buffer⟩ :=
      storeFrequencies_terminated (Strtok.terminated_start zero) enough
    have length := all.length_eq
    rw [List.length_take_of_le enough] at length
    exact ⟨values, next, stored, length.symm, buffer⟩
  · exact storeFrequencies_closed (Strtok.unterminated_start nowhere) enough

/-- It fails where there are too few. -/
theorem storeAvailable_fault {num : Nat} (short : ¬ Lasts num buf) :
    ∃ fault ≠ Fault.unending, storeAvailable num buf = .error fault := by
  by_cases zero : 0 ∈ buf
  · -- Which access fails depends on whether anything ends the search.
    refine ⟨.nullToken, nofun, storeFrequencies_short (Strtok.terminated_start zero) ?_⟩
    exact Nat.lt_of_not_le fun enough => short (.inl ⟨zero, enough⟩)
  · refine ⟨.outsideBuffer, nofun, storeFrequencies_outside (Strtok.unterminated_start zero) ?_⟩
    exact Nat.le_of_not_lt fun enough => short (.inr ⟨zero, enough⟩)

/-- The files can be read if there are two words, and enough of them the second time. -/
theorem readable_iff : Readable first second idle ↔ 0 ∈ firstBuffer first ∧ 2 ≤ firstCount first ∧
    Lasts (firstCount first - 1) (secondBuffer first second) ∧
      behindNumber (thirdBuffer first second idle) ≠ [] := by
  unfold Lasts
  constructor
  · -- Both sides bound the same count, once as it is and once less one.
    rintro ⟨zero, two, again, ends⟩
    refine ⟨zero, two, again.imp (And.imp_right fun enough => ?_)
      (And.imp_right fun enough => ?_), ends⟩ <;> omega
  · rintro ⟨zero, two, lasts, ends⟩
    refine ⟨zero, two, lasts.imp (And.imp_right fun enough => ?_)
      (And.imp_right fun enough => ?_), ends⟩ <;> omega

/-- What `common_power_open` comes to once the array is filled. -/
theorem commonPowerOpen_stored (zero : 0 ∈ firstBuffer first) (some_ : 0 < firstCount first)
    {values : List Int} {next : Strtok}
    (stored : storeAvailable (firstCount first - 1) (secondBuffer first second) =
      .ok (values, next))
    (buffer : next.buffer = cutWords space 0 (firstCount first - 1 + 1) (secondBuffer first second))
    (idle : SysfsRead) :
    commonPowerOpen first second idle =
      (elementAt values (-1 + firstCount first - 1)).bind fun maxFrequency =>
        (atoi (thirdBuffer first second idle)).bind fun lpMaxFrequency =>
          .ok {
            numAvailableFrequencies := -1 + firstCount first
            availableFrequencies := values
            maxFrequency
            lpMaxFrequency
            interactionBoostFrequency := boostFrequency values 1200000 lpMaxFrequency
            animationBoostFrequency := boostFrequency values 1000000 lpMaxFrequency } := by
  have number : (-1 + firstCount first : Int).toNat = firstCount first - 1 := by omega
  -- The third read goes over the buffer that storing has cut.
  have third : sysfsRead idle next.buffer bufferSize = thirdBuffer first second idle := by
    rw [buffer, Nat.sub_add_cancel some_]
    rfl
  rw [commonPowerOpen_terminated zero, if_neg (by omega), number, stored, ← third]
  rfl

/-- The last element is there if there is one. -/
theorem elementAt_last {values : List Int} {count : Nat} (two : 2 ≤ count)
    (length : values.length = count - 1) :
    elementAt values (-1 + count - 1) = .ok (values.getD (count - 2) 0) := by
  -- The index is the one of the last frequency.
  have index : (-1 + count - 1 : Int).toNat = count - 2 := by omega
  unfold elementAt
  rw [if_pos (by omega), index]

/-- Files that can be read give a table. -/
theorem commonPowerOpen_of_readable (readable : Readable first second idle) :
    ∃ table, commonPowerOpen first second idle = .ok table := by
  -- Each of the three texts is read to its end, so the table is there.
  obtain ⟨zero, two, lasts, ends⟩ := readable_iff.mp readable
  obtain ⟨values, next, stored, length, buffer⟩ := storeAvailable_of_lasts lasts
  obtain ⟨lp, read⟩ := atoi_ok_iff.mpr ends
  rw [commonPowerOpen_stored zero (by omega) stored buffer, elementAt_last two length, read]
  exact ⟨_, rfl⟩

/-- Files that cannot be read lead to an access that fails. -/
theorem commonPowerOpen_fault (unreadable : ¬ Readable first second idle) :
    ∃ fault ≠ Fault.unending, commonPowerOpen first second idle = .error fault := by
  rw [readable_iff] at unreadable
  by_cases zero : 0 ∈ firstBuffer first
  · rcases Nat.eq_zero_or_pos (firstCount first) with none_ | some_
    · -- Without a word the size of the array is negative.
      rw [commonPowerOpen_terminated zero, if_pos (by omega)]
      exact ⟨.negativeSize, nofun, rfl⟩
    · by_cases lasts : Lasts (firstCount first - 1) (secondBuffer first second)
      · obtain ⟨values, next, stored, length, buffer⟩ := storeAvailable_of_lasts lasts
        rw [commonPowerOpen_stored zero some_ stored buffer]
        by_cases two : 2 ≤ firstCount first
        · -- The last read leaves nothing that stops `atoi`.
          have outside : atoi (thirdBuffer first second idle) = .error .outsideBuffer := by
            unfold atoi
            rw [if_pos]
            by_contra ends
            exact unreadable ⟨zero, two, lasts, ends⟩
          rw [elementAt_last two length, outside]
          exact ⟨.outsideBuffer, nofun, rfl⟩
        · -- The array is empty, and there is no last element.
          have outside : elementAt values (-1 + firstCount first - 1) = .error .outsideArray := by
            unfold elementAt
            rw [if_neg]
            omega
          rw [outside]
          exact ⟨.outsideArray, nofun, rfl⟩
      · obtain ⟨fault, memory, stored⟩ := storeAvailable_fault lasts
        have number : (-1 + firstCount first : Int).toNat = firstCount first - 1 := by omega
        rw [commonPowerOpen_terminated zero, if_neg (by omega), number, stored]
        exact ⟨fault, memory, rfl⟩
  · -- Without a NUL counting itself leaves the buffer.
    refine ⟨.outsideBuffer, nofun, ?_⟩
    unfold commonPowerOpen
    show (determineNumber (firstBuffer first)).bind _ = _
    rw [determineNumber_unterminated zero (length_firstBuffer first)]
    rfl

end Open

/-- No access to memory fails. -/
def Safe (outcome : Except Fault FrequencyTable) : Prop :=
  ∀ fault ≠ Fault.unending, outcome ≠ .error fault

/--
Whatever the three reads come to, all accesses stay inside the buffer and the array precisely when
the first read leaves a NUL behind at least two words, the second read is again terminated and at
most one of these words is missing, or is not and has a space behind as many words, and the third
leaves something in the buffer behind the number.
-/
theorem safe_iff (first second idle : SysfsRead) :
    Safe (commonPowerOpen first second idle) ↔ Readable first second idle := by
  -- An unreadable text leads to a fault, and a readable one to a table.
  constructor
  · intro safe
    by_contra unreadable
    obtain ⟨fault, memory, failed⟩ := commonPowerOpen_fault unreadable
    exact safe fault memory failed
  · intro readable fault _ failed
    obtain ⟨table, opened⟩ := commonPowerOpen_of_readable readable
    rw [opened] at failed
    cases failed

/-- A node that cannot be read a single byte of makes the size of the array negative. -/
theorem not_safe_empty : ¬ Safe (commonPowerOpen (.read []) (.read []) (.read [])) :=
  fun safe => safe .negativeSize nofun (by decide +kernel)

def newline : UInt8 := 10

/-- Frequencies as the kernel lists them: each followed by a space, and a newline at the end. -/
def rendered (frequencies : List Nat) : List UInt8 :=
  frequencies.flatMap (fun frequency => decimal frequency ++ [space]) ++ [newline]

/-- A value is the least of a list that is high enough, or another one where there is none. -/
def LeastFrom (floor : Int) (frequencies : List Nat) (otherwise_ value : Int) : Prop :=
  (∃ frequency ∈ frequencies, value = frequency ∧ floor ≤ frequency ∧
      ∀ other ∈ frequencies, floor ≤ (other : Int) → frequency ≤ other) ∨
    (∀ frequency ∈ frequencies, (frequency : Int) < floor) ∧ value = otherwise_

section Exact

variable {frequencies : List Nat} {z : Int}

/-- There is no NUL in a number. -/
theorem zero_notMem_decimal (n : Nat) : 0 ∉ decimal n := by
  intro member
  exact absurd (isDigit_of_mem_decimal member) (by decide)

/-- There is no blank in a number. -/
theorem space_notMem_decimal (n : Nat) : space ∉ decimal n := by
  intro member
  exact absurd (isDigit_of_mem_decimal member) (by decide)

/-- There is no NUL in a list of frequencies. -/
theorem zero_notMem_rendered (frequencies : List Nat) : 0 ∉ rendered frequencies := by
  -- Digits, blanks and the newline are none.
  unfold rendered
  simp only [List.mem_append, List.mem_flatMap, not_or, not_exists, not_and, List.mem_singleton]
  exact ⟨fun frequency _ => ⟨zero_notMem_decimal frequency, by decide⟩, by decide⟩

/-- The newline counts as a word. -/
theorem words_rendered (frequencies : List Nat) :
    words space (rendered frequencies) = frequencies.map decimal ++ [[newline]] := by
  -- Each frequency is a word in front of its space, and the newline is what remains.
  have parts : frequencies.flatMap (fun frequency => decimal frequency ++ [space]) =
      (frequencies.map decimal).flatMap (· ++ [space]) := by
    rw [List.flatMap_map]
  -- Digits are no spaces, so no word is split further.
  have wholes : ∀ part ∈ frequencies.map decimal, space ∉ part ∧ part ≠ [] := by
    intro part member
    obtain ⟨frequency, _, rfl⟩ := List.mem_map.mp member
    exact ⟨space_notMem_decimal frequency, decimal_ne_nil frequency⟩
  unfold rendered
  rw [parts, words_flatMap wholes, words_single (by decide) (by decide)]

/-- A file that fits is read whole, and what is left behind it stays. -/
theorem sysfsRead_whole {bytes buffer : List UInt8} (fits : bytes.length ≤ bufferSize) :
    sysfsRead (.read bytes) buffer bufferSize = bytes ++ buffer.drop bytes.length := by
  -- A text that fits is read as a whole.
  show overwrite (bytes.take bufferSize) buffer = _
  rw [List.take_of_length_le fits]
  rfl

/-- The string in the buffer is the file, if a NUL is left behind it. -/
theorem cString_whole {bytes rest : List UInt8} (clear : 0 ∉ bytes) :
    cString (bytes ++ 0 :: rest) = bytes := by
  rw [cString_append clear, cString_zero, List.append_nil]

/-- The first read leaves the file in front of a NUL. -/
theorem firstBuffer_rendered (short : (rendered frequencies).length < bufferSize) :
    ∃ rest, firstBuffer (.read (rendered frequencies)) = rendered frequencies ++ 0 :: rest := by
  unfold firstBuffer
  rw [sysfsRead_whole (Nat.le_of_lt short), List.drop_replicate]
  -- The buffer is larger than the file, so at least one of its first zeros stays.
  obtain ⟨more, left⟩ : ∃ more, bufferSize - (rendered frequencies).length = more + 1 :=
    ⟨_, (Nat.succ_pred_eq_of_pos (Nat.sub_pos_of_lt short)).symm⟩
  exact ⟨List.replicate more 0, by rw [left]; rfl⟩

/-- Cutting words off leaves a NUL where it is. -/
theorem drop_cutWords (count : Nat) (bytes rest : List UInt8) :
    ∃ after, (cutWords space 0 count (bytes ++ 0 :: rest)).drop bytes.length = 0 :: after := by
  -- A byte is either left as it is or becomes a NUL, and it was one.
  have kept := List.forall₂_drop bytes.length
    (@forall₂_cutWords _ _ space 0 count (bytes ++ 0 :: rest))
  rw [List.drop_left] at kept
  obtain ⟨c, after, same, _, left⟩ := List.forall₂_cons_right_iff.mp kept
  exact ⟨after, by rw [left, same.elim id id]⟩

/-- The second read leaves the same, over what was cut. -/
theorem secondBuffer_rendered (short : (rendered frequencies).length < bufferSize) :
    ∃ rest, secondBuffer (.read (rendered frequencies)) (.read (rendered frequencies)) =
      rendered frequencies ++ 0 :: rest := by
  -- The cutting of the first pass has changed blanks behind the text only.
  obtain ⟨rest, first⟩ := firstBuffer_rendered short
  obtain ⟨after, left⟩ :=
    drop_cutWords (firstCount (.read (rendered frequencies))) (rendered frequencies) rest
  unfold secondBuffer
  rw [sysfsRead_whole (Nat.le_of_lt short), first, left]
  exact ⟨after, rfl⟩

/-- One word more than frequencies is counted. -/
theorem firstCount_rendered (short : (rendered frequencies).length < bufferSize) :
    firstCount (.read (rendered frequencies)) = frequencies.length + 1 := by
  -- Each frequency is a word, and the newline is one too.
  obtain ⟨rest, first⟩ := firstBuffer_rendered short
  unfold firstCount
  rw [first, cString_whole (zero_notMem_rendered _), words_rendered]
  simp

/-- Frequencies that an `int` holds are stored as they are. -/
theorem values_eq (small : ∀ frequency ∈ frequencies, frequency < 2 ^ 31) {values : List Int}
    (read : List.Forall₂ Reads (frequencies.map decimal) values) :
    values = frequencies.map fun frequency : Nat => (frequency : Int) := by
  rw [List.forall₂_map_left_iff] at read
  -- Element by element, what is read of a frequency is the frequency.
  induction read with
  | nil => rfl
  | @cons frequency value rest values first _ ih =>
    obtain ⟨below, others⟩ := List.forall_mem_cons.mp small
    obtain ⟨after, read⟩ := first
    -- The token ends at a NUL, and an `int` has room for its value.
    have number := atoi_decimalInt (z := frequency) (by omega) (by omega)
      (by decide : isDigit 0 = false) after
    have same : decimalInt frequency = decimal frequency := rfl
    rw [same, read] at number
    rw [ih others, List.map_cons, Except.ok.inj number]

/-- A decimal number that an `int` holds is short. -/
theorem length_decimalInt_le (low : -2 ^ 31 ≤ z) (high : z < 2 ^ 31) :
    (decimalInt z).length ≤ 11 := by
  -- There are at most ten digits, and perhaps a sign.
  have digits : (decimal z.natAbs).length ≤ 10 :=
    length_decimal_le (by decide) (Nat.lt_of_le_of_lt (m := 2 ^ 31) (by omega) (by decide))
  unfold decimalInt
  split
  · exact Nat.succ_le_succ digits
  · exact Nat.le_succ_of_le digits

/-- The third read leaves the number in front of a newline. -/
theorem thirdBuffer_decimal (low : -2 ^ 31 ≤ z) (high : z < 2 ^ 31) (first second : SysfsRead) :
    ∃ rest, thirdBuffer first second (.read (decimalInt z ++ [newline])) =
      decimalInt z ++ newline :: rest := by
  -- A number and its newline fit into the buffer.
  have fits : (decimalInt z ++ [newline]).length ≤ bufferSize := by
    have short := length_decimalInt_le low high
    rw [List.length_append, List.length_singleton]
    unfold bufferSize
    omega
  unfold thirdBuffer
  rw [sysfsRead_whole fits, List.append_assoc]
  exact ⟨_, rfl⟩

/-- In an increasing list the first value that is high enough is the least one. -/
theorem leastFrom_boostFrequency (increasing : frequencies.Pairwise (· < ·))
    (floor otherwise_ : Int) : LeastFrom floor frequencies otherwise_
      (boostFrequency (frequencies.map fun frequency : Nat => (frequency : Int)) floor
        otherwise_) := by
  unfold boostFrequency LeastFrom
  -- The search stops at the first value from the floor on, so the induction follows it.
  induction frequencies with
  | nil => exact .inr ⟨List.forall_mem_nil _, rfl⟩
  | cons frequency rest ih =>
    obtain ⟨above, increasing⟩ := List.pairwise_cons.mp increasing
    rw [List.map_cons, List.find?_cons]
    by_cases enough : floor ≤ (frequency : Int)
    · -- All values behind the first are above it, so it is the least that is high enough.
      rw [decide_eq_true enough]
      refine .inl ⟨frequency, List.mem_cons_self, rfl, enough, fun other member _ => ?_⟩
      rcases List.mem_cons.mp member with rfl | member
      · exact Nat.le_refl _
      · exact Nat.le_of_lt (above other member)
    · -- Too low a value changes nothing for the rest.
      rw [decide_eq_false enough]
      rcases ih increasing with ⟨least, member, is, high, lowest⟩ | ⟨low, is⟩
      · refine .inl ⟨least, List.mem_cons_of_mem _ member, is, high, fun other among some_ => ?_⟩
        rcases List.mem_cons.mp among with rfl | among
        · exact absurd some_ enough
        · exact lowest other among some_
      · exact .inr ⟨List.forall_mem_cons.mpr ⟨Int.lt_of_not_ge enough, low⟩, is⟩

end Exact

/--
A list of frequencies as the kernel renders it becomes the table, with the highest of them, the
number of the third file if an `int` holds it, and the least frequencies that are high enough.
-/
theorem commonPowerOpen_rendered (frequencies : List Nat) (z : Int) (some_ : frequencies ≠ [])
    (increasing : frequencies.Pairwise (· < ·))
    (small : ∀ frequency ∈ frequencies, frequency < 2 ^ 31)
    (short : (rendered frequencies).length < bufferSize)
    (low : -2 ^ 31 ≤ z) (high : z < 2 ^ 31) :
    ∃ table, commonPowerOpen (.read (rendered frequencies)) (.read (rendered frequencies))
        (.read (decimalInt z ++ [newline])) = .ok table ∧
      table.numAvailableFrequencies = frequencies.length ∧
      table.availableFrequencies = frequencies.map (fun frequency : Nat => (frequency : Int)) ∧
      (∃ frequency ∈ frequencies, table.maxFrequency = frequency ∧
        ∀ other ∈ frequencies, other ≤ frequency) ∧
      table.lpMaxFrequency = z ∧
      LeastFrom 1200000 frequencies z table.interactionBoostFrequency ∧
      LeastFrom 1000000 frequencies z table.animationBoostFrequency := by
  obtain ⟨rest, second⟩ := secondBuffer_rendered short
  obtain ⟨last, third⟩ := thirdBuffer_decimal low high (.read (rendered frequencies))
    (.read (rendered frequencies))
  have count := firstCount_rendered short
  have zero : 0 ∈ firstBuffer (.read (rendered frequencies)) := by
    obtain ⟨_, first⟩ := firstBuffer_rendered short
    simp [first]
  have again : 0 ∈ secondBuffer (.read (rendered frequencies)) (.read (rendered frequencies)) := by
    simp [second]
  -- The second time the words are the frequencies and the newline.
  have tokens : (Strtok.start (secondBuffer (.read (rendered frequencies))
      (.read (rendered frequencies)))).tokens = frequencies.map decimal ++ [[newline]] := by
    show words space (cString (secondBuffer _ _)) = _
    rw [second, cString_whole (zero_notMem_rendered _), words_rendered]
  have enough : frequencies.length ≤ (Strtok.start (secondBuffer (.read (rendered frequencies))
      (.read (rendered frequencies)))).tokens.length := by
    simp [tokens]
  obtain ⟨values, next, stored, read, buffer⟩ :=
    storeFrequencies_terminated (Strtok.terminated_start again) enough
  rw [tokens, List.take_left' (List.length_map _)] at read
  obtain rfl := values_eq small read
  -- The number that was determined is that of the frequencies.
  have number : frequencies.length = firstCount (.read (rendered frequencies)) - 1 := by omega
  have positive := List.length_pos_of_ne_nil some_
  -- With the array filled, only the last element and the third number are left to read.
  have opened := commonPowerOpen_stored zero (by omega) (number ▸ stored) (number ▸ buffer)
    (.read (decimalInt z ++ [newline]))
  have length : (frequencies.map fun frequency : Nat => (frequency : Int)).length =
      firstCount (.read (rendered frequencies)) - 1 := (List.length_map _).trans number
  rw [elementAt_last (by omega) length, third,
    atoi_decimalInt low high (by decide : isDigit newline = false)] at opened
  refine ⟨_, opened, ?_, rfl, ⟨frequencies.getLast some_, List.getLast_mem some_, ?_, ?_⟩, rfl,
    leastFrom_boostFrequency increasing _ _, leastFrom_boostFrequency increasing _ _⟩
  · show (-1 + firstCount (.read (rendered frequencies)) : Int) = frequencies.length
    omega
  · show (frequencies.map fun frequency : Nat => (frequency : Int)).getD _ 0 = _
    have index : firstCount (.read (rendered frequencies)) - 2 = frequencies.length - 1 := by omega
    rw [index, List.getD_eq_getElem?_getD, List.getElem?_map, ← List.getLast?_eq_getElem?,
      List.getLast?_eq_some_getLast some_]
    rfl
  · -- The last of an increasing list is the highest.
    exact fun other member => (increasing.imp Nat.le_of_lt).rel_getLast member

/-- The frequencies of a processor, and one for its low power cluster. -/
theorem commonPowerOpen_rendered_three : ∃ table,
    commonPowerOpen (.read (rendered [340000, 1000000, 1300000]))
        (.read (rendered [340000, 1000000, 1300000])) (.read (decimalInt 475000 ++ [newline])) =
      .ok table ∧
    table.numAvailableFrequencies = ([340000, 1000000, 1300000] : List Nat).length ∧
    table.availableFrequencies = ([340000, 1000000, 1300000] : List Nat).map
      (fun frequency : Nat => (frequency : Int)) ∧
    (∃ frequency ∈ [340000, 1000000, 1300000], table.maxFrequency = (frequency : Nat) ∧
      ∀ other ∈ [340000, 1000000, 1300000], other ≤ frequency) ∧
    table.lpMaxFrequency = 475000 ∧
    LeastFrom 1200000 [340000, 1000000, 1300000] 475000 table.interactionBoostFrequency ∧
    LeastFrom 1000000 [340000, 1000000, 1300000] 475000 table.animationBoostFrequency :=
  commonPowerOpen_rendered [340000, 1000000, 1300000] 475000 (by decide) (by decide) (by decide)
    (by decide +kernel) (by decide) (by decide)

/-- Of a number that no `int` holds another one is stored. -/
theorem not_lpMaxFrequency_large : ∃ table,
    commonPowerOpen (.read (rendered [1300000])) (.read (rendered [1300000]))
        (.read (decimalInt 2147483648 ++ [newline])) = .ok table ∧
      table.lpMaxFrequency = 2147483647 ∧ table.lpMaxFrequency ≠ 2147483648 :=
  ⟨⟨1, [1300000], 1300000, 2147483647, 1300000, 1300000⟩, by decide +kernel, rfl, by decide⟩

end Grouper.Power
