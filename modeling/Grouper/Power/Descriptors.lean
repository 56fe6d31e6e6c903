import Grouper.Lib.Slots
import Grouper.Power.Poker
import Mathlib.Data.List.Perm.Basic

/-! What opening and closing descriptors keeps: every timed file is held until it is closed. -/

namespace Grouper.Power

open Function (update)

/-- Whether `openPmQosTimed` opened a file. -/
def File.isTimed (file : File) : Bool :=
  match file.purpose with
  | .timed _ _ => true
  | _ => false

/-- A file was opened by `openPmQosTimed`, and its timeout has passed by a time. -/
def File.DueBy (file : File) (time : Int) : Prop :=
  ∃ openedAt timeout, file.purpose = .timed openedAt timeout ∧ openedAt + timeout ≤ time

/-- A timed file was closed by its own timeout event, and not before its timeout. -/
def Closing.Punctual (closing : Closing) : Prop :=
  closing.file.isTimed = true → closing.file.DueBy closing.time ∧
    ∃ event fd, closing.closer = .timeoutRequest event ∧ event.item = .timeout fd closing.file

/-- The timed files that were closed, as often as they were. -/
def Kernel.timedClosed (k : Kernel) : List File := (k.closings.map Closing.file).filter File.isTimed

/-- The poker holds certain descriptors, and every timed file is held or was closed once. -/
structure Kernel.Accounts (k : Kernel) (held : List (Nat × File)) : Prop where
  holds : Slotted k.fds held
  serials : ∀ file ∈ k.opened, file.serial < k.opened.length
  distinct : k.opened.Nodup
  known : ∀ fd file, k.fds fd = some file → file ∈ k.opened
  timedHeld : ∀ fd file, k.fds fd = some file → file.isTimed = true → (fd, file) ∈ held
  /-- Other code holds none of them. -/
  ours : ∀ one ∈ held, one.2.purpose ≠ .elsewhere ∧ one.2.purpose ≠ .client
  balance : ((held.map Prod.snd).filter File.isTimed ++ k.timedClosed).Perm
    (k.opened.filter File.isTimed)
  punctual : ∀ closing ∈ k.closings, closing.Punctual

namespace Kernel.Accounts

variable {k : Kernel} {held others : List (Nat × File)} {fd : Nat} {file : File}

/-- What is held is among what was opened. -/
theorem held_opened (accounts : k.Accounts held) :
    ∀ one ∈ held, one.2 ∈ k.opened := fun one member =>
  accounts.known one.1 one.2 (accounts.holds.there one member)

/-- A file that is opened next was never opened before. -/
theorem file_new (accounts : k.Accounts held) (purpose : Purpose) :
    k.file purpose ∉ k.opened := by
  -- Its number is one more than any so far.
  intro member
  exact Nat.lt_irrefl _ (accounts.serials _ member)

/-- The order in which descriptors are held does not matter. -/
theorem perm (accounts : k.Accounts held) (same : held.Perm others) : k.Accounts others where
  holds := accounts.holds.perm same
  serials := accounts.serials
  distinct := accounts.distinct
  known := accounts.known
  timedHeld fd file there timed := same.mem_iff.mp (accounts.timedHeld fd file there timed)
  ours one member := accounts.ours one (same.mem_iff.mpr member)
  balance := (((same.map _).filter _).symm.append_right _).trans accounts.balance
  punctual := accounts.punctual

/-- What is written to a file is no concern of the accounts. -/
theorem write (accounts : k.Accounts held) (writes : List (File × PmQosSetting)) :
    ({ k with writes := writes } : Kernel).Accounts held :=
  ⟨accounts.holds, accounts.serials, accounts.distinct, accounts.known, accounts.timedHeld,
    accounts.ours, accounts.balance, accounts.punctual⟩

section Open

variable (accounts : k.Accounts held) (free : k.fds fd = none) (purpose : Purpose)

include accounts in
/-- The file that is opened has the next serial number. -/
theorem serials_open : ∀ file ∈ (k.open_ fd purpose).opened,
    file.serial < (k.open_ fd purpose).opened.length :=
  List.forall_mem_cons.mpr ⟨Nat.lt_succ_self _, fun file member =>
    Nat.lt_succ_of_lt (accounts.serials file member)⟩

include accounts in
/-- Its descriptor stands for it, and the others for what they stood for. -/
theorem known_open : ∀ other file, (k.open_ fd purpose).fds other = some file →
    file ∈ (k.open_ fd purpose).opened := by
  -- A descriptor stands for the new file, or for what it stood for.
  intro other file there
  have there : update k.fds fd (some (k.file purpose)) other = some file := there
  by_cases same : other = fd
  · subst same
    rw [Function.update_self] at there
    rw [← Option.some.inj there]
    exact List.mem_cons_self
  · rw [Function.update_of_ne same] at there
    exact List.mem_cons_of_mem _ (accounts.known other file there)

include accounts free in
/-- A descriptor that is opened may be held. -/
theorem openHeld (ours : purpose ≠ .elsewhere ∧ purpose ≠ .client) :
    (k.open_ fd purpose).Accounts ((fd, k.file purpose) :: held) where
  holds := accounts.holds.put free fun one member same =>
    accounts.file_new purpose (same ▸ accounts.held_opened one member)
  serials := accounts.serials_open purpose
  distinct := List.nodup_cons.mpr ⟨accounts.file_new purpose, accounts.distinct⟩
  known := accounts.known_open purpose
  timedHeld other file there timed := by
    have there : update k.fds fd (some (k.file purpose)) other = some file := there
    by_cases same : other = fd
    · subst same
      rw [Function.update_self] at there
      -- The new descriptor is held from now on.
      rw [Option.some.inj there]
      exact List.mem_cons_self
    · rw [Function.update_of_ne same] at there
      exact List.mem_cons_of_mem _ (accounts.timedHeld other file there timed)
  ours := List.forall_mem_cons.mpr ⟨ours, accounts.ours⟩
  balance := by
    -- The new file joins both sides, or neither if it is not timed.
    show ((k.file purpose :: held.map Prod.snd).filter File.isTimed ++ k.timedClosed).Perm
      ((k.file purpose :: k.opened).filter File.isTimed)
    rw [List.filter_cons, List.filter_cons]
    split
    · exact accounts.balance.cons _
    · exact accounts.balance
  punctual := accounts.punctual

include accounts free in
/-- A descriptor that is not for a timed file may be opened without being held. -/
theorem openUnheld (untimed : (k.file purpose).isTimed = false) :
    (k.open_ fd purpose).Accounts held where
  holds := accounts.holds.fill free
  serials := accounts.serials_open purpose
  distinct := List.nodup_cons.mpr ⟨accounts.file_new purpose, accounts.distinct⟩
  known := accounts.known_open purpose
  timedHeld other file there timed := by
    have there : update k.fds fd (some (k.file purpose)) other = some file := there
    by_cases same : other = fd
    · -- The new descriptor is not for a timed file.
      subst same
      rw [Function.update_self] at there
      rw [← Option.some.inj there, untimed] at timed
      cases timed
    · rw [Function.update_of_ne same] at there
      exact accounts.timedHeld other file there timed
  ours := accounts.ours
  balance := by
    -- A file that is not timed is on neither side.
    show (_ ++ k.timedClosed).Perm ((k.file purpose :: k.opened).filter File.isTimed)
    rw [List.filter_cons, untimed, if_neg (by decide)]
    exact accounts.balance
  punctual := accounts.punctual

end Open

section Close

variable (time : Int) (closer : Closer)

/-- Closing a descriptor frees it, and remembers the file and the time. -/
theorem close_eq (there : k.fds fd = some file) : k.close fd time closer = { k with
    fds := update k.fds fd none
    closings := ⟨file, time, closer⟩ :: k.closings } := by
  unfold Kernel.close
  rw [there]

/-- A closed descriptor stands for nothing, and the others for what they stood for. -/
theorem fds_close {other : Nat} {found : File}
    (still : update k.fds fd none other = some found) : other ≠ fd ∧ k.fds other = some found := by
  -- The descriptor itself stands for nothing afterwards.
  by_cases same : other = fd
  · subst same
    rw [Function.update_self] at still
    cases still
  · rw [Function.update_of_ne same] at still
    exact ⟨same, still⟩

/-- A descriptor that is held is closed, and is held no longer. -/
theorem closeHeld (accounts : k.Accounts ((fd, file) :: held))
    (punctual : (⟨file, time, closer⟩ : Closing).Punctual) :
    (k.close fd time closer).Accounts held := by
  obtain ⟨there, holds⟩ := accounts.holds.take
  rw [close_eq time closer there]
  refine ⟨holds, accounts.serials, accounts.distinct, fun other found still => ?_,
    fun other found still timed => ?_, fun one member =>
    accounts.ours one (List.mem_cons_of_mem _ member), ?_,
    List.forall_mem_cons.mpr ⟨punctual, accounts.punctual⟩⟩
  · exact accounts.known other found (fds_close still).2
  · -- A timed file that is still open was held under another descriptor.
    obtain ⟨apart, still⟩ := fds_close still
    rcases List.mem_cons.mp (accounts.timedHeld other found still timed) with is | member
    · exact absurd (congrArg Prod.fst is) apart
    · exact member
  · -- The file moves from those held to those closed.
    have balance := accounts.balance
    rw [List.map_cons, List.filter_cons] at balance
    show ((held.map Prod.snd).filter File.isTimed ++
      (file :: k.closings.map Closing.file).filter File.isTimed).Perm _
    rw [List.filter_cons]
    split at balance
    · rename_i timed
      rw [if_pos timed]
      exact List.perm_middle.trans balance
    · rename_i untimed
      rw [if_neg untimed]
      exact balance

/-- Other code closes only what the poker does not hold. -/
theorem closeUnheld (accounts : k.Accounts held) (there : k.fds fd = some file)
    (others : file.purpose = .elsewhere ∨ file.purpose = .client) :
    (k.close fd time closer).Accounts held := by
  have untimed : file.isTimed = false := by
    unfold File.isTimed
    rcases others with purpose | purpose <;> rw [purpose]
  -- All that is held was opened for the poker itself.
  have unlisted : ∀ one ∈ held, one.2 ≠ file := by
    intro one member same
    have ours := accounts.ours one member
    rw [same] at ours
    exact others.elim ours.1 ours.2
  rw [close_eq time closer there]
  refine ⟨accounts.holds.empty there unlisted, accounts.serials, accounts.distinct,
    fun other found still => accounts.known other found (fds_close still).2,
    fun other found still timed => accounts.timedHeld other found (fds_close still).2 timed,
    accounts.ours, ?_, List.forall_mem_cons.mpr ⟨fun timed => ?_, accounts.punctual⟩⟩
  · show (_ ++ (file :: k.closings.map Closing.file).filter File.isTimed).Perm _
    rw [List.filter_cons, untimed, if_neg (by decide)]
    exact accounts.balance
  · have timed : file.isTimed = true := timed
    rw [untimed] at timed
    cases timed

end Close

/-- A descriptor that is not for a timed file may be forgotten. -/
theorem drop (accounts : k.Accounts ((fd, file) :: held)) (untimed : file.isTimed = false) :
    k.Accounts held where
  holds := accounts.holds.tail
  serials := accounts.serials
  distinct := accounts.distinct
  known := accounts.known
  timedHeld other found there timed := by
    rcases List.mem_cons.mp (accounts.timedHeld other found there timed) with is | member
    · -- Only the file of the forgotten descriptor could be missing, and it is not timed.
      have same : found = file := congrArg Prod.snd is
      rw [same, untimed] at timed
      cases timed
    · exact member
  ours one member := accounts.ours one (List.mem_cons_of_mem _ member)
  balance := by
    have balance := accounts.balance
    rw [List.map_cons, List.filter_cons, untimed, if_neg (by decide)] at balance
    exact balance
  punctual := accounts.punctual

end Kernel.Accounts

end Grouper.Power
