import Grouper.Lib.Decimal
import Grouper.Lib.Words

/-! The commands written to constraint nodes, and whether they say what was asked for. -/

namespace Grouper.Power

/-- `COMMAND_SIZE`. -/
def commandSize : Nat := 20

def space : UInt8 := 32

/-- What `snprintf` stores in a buffer of some size: as much as fits in front of a NUL. -/
def snprintf (size : Nat) (text : List UInt8) : List UInt8 :=
  if size = 0 then [] else text.take (size - 1) ++ [0]

/-- The bytes of a buffer in front of its first NUL. -/
def cString (buffer : List UInt8) : List UInt8 := buffer.takeWhile (· ≠ 0)

def strlen (buffer : List UInt8) : Nat := (cString buffer).length

/-- The text of the format `%d %d %d 0`. -/
def constraintText (priority max min : Int32) : List UInt8 :=
  decimalInt max.toInt ++ space :: (decimalInt min.toInt ++ space ::
    (decimalInt priority.toInt ++ space :: decimal 0))

/-- `createConstraintCommand`: what it leaves in the buffer, and the length it returns. -/
def createConstraintCommand (size : Nat) (priority max min : Int32) : List UInt8 × Nat :=
  let command := snprintf size (constraintText priority max min)
  (command, strlen command)

/-- A `write` to a descriptor. -/
structure Written where
  fd : Nat
  bytes : List UInt8
  deriving DecidableEq, Repr

/-- A constraint node is opened if it can be, and the command is written to it. -/
def writeConstraint (fd : Option Nat) (priority max min : Int32) : Int × List Written :=
  match fd with
  | none => (-1, [])
  | some fd =>
    let (command, size) := createConstraintCommand commandSize priority max min
    (fd, [⟨fd, command.take size⟩])

/-- `openPmQosNode` with a priority, on what `open` comes to. -/
def openPmQosNode (fd : Option Nat) (priority max min : Int32) : Int × List Written :=
  writeConstraint fd priority max min

/-- `requestPmQos` with a priority. -/
def requestPmQos (fd : Option Nat) (priority max min : Int32) : Int × List Written :=
  writeConstraint fd priority max min

/-- The numbers of a command, if it consists of numbers. -/
def readCommand (bytes : List UInt8) : Option (List Int) :=
  (words space bytes).mapM readDecimalInt

/-- One command was written, it is whole, and it reads back as the request it was made for. -/
def Complete (fd : Nat) (priority max min : Int32) (written : List Written) : Prop :=
  ∃ bytes, written = [⟨fd, bytes⟩] ∧
    readCommand bytes = some [max.toInt, min.toInt, priority.toInt, 0] ∧
    bytes.length = (constraintText priority max min).length

section Text

/-- There is no blank in a number. -/
theorem space_notMem_decimalInt (z : Int) : space ∉ decimalInt z := by
  -- A space is neither a sign nor a digit.
  intro member
  rcases mem_decimalInt member with sign | digit
  · exact absurd sign (by decide)
  · exact absurd digit (by decide)

/-- There is no NUL in a number. -/
theorem zero_notMem_decimalInt (z : Int) : 0 ∉ decimalInt z := by
  -- A sign or a digit is none.
  intro member
  rcases mem_decimalInt member with sign | digit
  · exact absurd sign (by decide)
  · exact absurd digit (by decide)

variable (priority max min : Int32)

/-- The text of a command is read back as its four numbers. -/
theorem readCommand_constraintText : readCommand (constraintText priority max min) =
    some [max.toInt, min.toInt, priority.toInt, 0] := by
  unfold readCommand constraintText
  -- Each number ends at the space behind it, and the last one at the end.
  rw [words_append (space_notMem_decimalInt _) (decimalInt_ne_nil _),
    words_append (space_notMem_decimalInt _) (decimalInt_ne_nil _),
    words_append (space_notMem_decimalInt _) (decimalInt_ne_nil _)]
  have zero : readDecimalInt (decimal 0) = some 0 := readDecimalInt_decimalInt 0
  have last : words space (decimal 0) = [decimal 0] :=
    words_single (space_notMem_decimalInt 0) (decimal_ne_nil 0)
  rw [last]
  simp [readDecimalInt_decimalInt, zero]

/-- There is no NUL in the text of a command. -/
theorem zero_notMem_constraintText : 0 ∉ constraintText priority max min := by
  -- Numbers and blanks are all it has.
  unfold constraintText
  simp only [List.mem_append, List.mem_cons, not_or]
  have nothing := zero_notMem_decimalInt
  exact ⟨nothing _, by decide, nothing _, by decide, nothing _, by decide, nothing 0⟩

/-- Besides its three numbers, a command has three spaces and a zero. -/
theorem length_constraintText : (constraintText priority max min).length =
    (decimalInt max.toInt).length + (decimalInt min.toInt).length +
      (decimalInt priority.toInt).length + 4 := by
  -- Three blanks and the one digit of the timeout come to four.
  have zero : (decimal 0).length = 1 := rfl
  unfold constraintText
  simp only [List.length_append, List.length_cons, zero]
  omega

/-- In front of the NUL there is as much of the text as fits. -/
theorem cString_snprintf {size : Nat} {text : List UInt8} (some_ : 0 < size) (whole : 0 ∉ text) :
    cString (snprintf size text) = text.take (size - 1) := by
  -- The text is cut to leave room for the NUL, and has none before.
  have front : ∀ c ∈ text.take (size - 1), (c ≠ 0 : Bool) = true := by
    intro c member
    have other : c ≠ 0 := fun same => whole (same ▸ List.mem_of_mem_take member)
    simpa using other
  unfold cString snprintf
  rw [if_neg (Nat.pos_iff_ne_zero.mp some_), List.takeWhile_append_of_pos front]
  simp

/-- What is written to a node is the beginning of the command, up to 19 bytes. -/
theorem writeConstraint_some (fd : Nat) :
    (writeConstraint (some fd) priority max min).2 =
      [⟨fd, (constraintText priority max min).take (commandSize - 1)⟩] := by
  have front := cString_snprintf (show 0 < commandSize by decide)
    (zero_notMem_constraintText priority max min)
  -- Cutting the buffer at its length leaves what is in front of the NUL.
  have cut : ∀ buffer : List UInt8, buffer.take (strlen buffer) = cString buffer :=
    fun buffer => (List.prefix_iff_eq_take.mp (List.takeWhile_prefix _)).symm
  unfold writeConstraint createConstraintCommand
  dsimp only
  rw [cut, front]

/-- A command is complete precisely when it fits into the buffer. -/
theorem complete_writeConstraint_iff (fd : Nat) :
    Complete fd priority max min (writeConstraint (some fd) priority max min).2 ↔
      (constraintText priority max min).length < commandSize := by
  unfold Complete
  rw [writeConstraint_some]
  constructor
  · -- A command that was cut is shorter than it should be.
    rintro ⟨bytes, written, _, length⟩
    simp only [List.cons.injEq, Written.mk.injEq, true_and, and_true] at written
    rw [← written, List.length_take] at length
    have positive : 0 < commandSize := by decide
    omega
  · intro fits
    have whole := List.take_of_length_le (i := commandSize - 1)
      (l := constraintText priority max min) (by omega)
    rw [whole]
    exact ⟨_, rfl, readCommand_constraintText priority max min, rfl⟩

end Text

/--
A constraint node is told what was asked for precisely when the three numbers of the request have
at most 15 characters together.
-/
theorem complete_iff (fd : Nat) (priority max min : Int32) :
    Complete fd priority max min (openPmQosNode (some fd) priority max min).2 ∧
        Complete fd priority max min (requestPmQos (some fd) priority max min).2 ↔
      (decimalInt max.toInt).length + (decimalInt min.toInt).length +
        (decimalInt priority.toInt).length ≤ 15 := by
  -- Both write the same command.
  unfold openPmQosNode requestPmQos
  rw [and_self, complete_writeConstraint_iff, length_constraintText]
  unfold commandSize
  omega

/-- A range of processor frequencies loses the zero at the end of its command. -/
theorem not_complete_frequencies :
    ¬ Complete 5 50 1300000 1200000 (openPmQosNode (some 5) 50 1300000 1200000).2 ∧
      (openPmQosNode (some 5) 50 1300000 1200000).2.map Written.bytes =
        ["1300000 1200000 50 ".toUTF8.toList] := by
  -- The command is cut behind the priority.
  constructor
  · intro complete
    have short := (complete_writeConstraint_iff 50 1300000 1200000 5).mp complete
    exact absurd short (by decide +kernel)
  · decide +kernel

end Grouper.Power
