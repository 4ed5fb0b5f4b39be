import PromptLibrary.Command.Console
import PromptLibrary.Proofs.Files.Action
import PromptLibrary.Proofs.Text.Points
/-!
# What commands write

Text is written as it is if it has no surrogate half; else it breaks the command off.  The steps of
a command add to what is written and leave all else as it was.
-/

namespace PromptLibrary.Proofs.Command.Console

open PromptLibrary.Command
open PromptLibrary.Proofs.Files.Action
open PromptLibrary.Proofs.Text.Points

variable {world : World} {s t : Text} {α : Type}

/-- The world after a text has been written. -/
def wrote (world : World) (t : Text) : World :=
  { world with output := world.output ++ t }

/-- The world after a line has been added to the error messages. -/
def complained (world : World) (t : Text) : World :=
  { world with errors := world.errors ++ t.flatMap shownPoint ++ [.char '\n'] }

/-- Lines as they are printed. -/
def printed (lines : List Text) : Text :=
  lines.flatMap (· ++ [.char '\n'])

@[simp]
theorem wrote_wrote : wrote (wrote world s) t = wrote world (s ++ t) := by
  simp [wrote]

@[simp]
theorem wrote_nil : wrote world [] = world := by
  simp [wrote]

theorem printed_cons {lines : List Text} :
    printed (t :: lines) = t ++ [.char '\n'] ++ printed lines :=
  rfl

theorem printed_append {lines more : List Text} :
    printed (lines ++ more) = printed lines ++ printed more :=
  List.flatMap_append

theorem result_write (ht : t.WellFormed) : result (write t) world = (.ok (), wrote world t) := by
  unfold write
  rw [if_pos ht]
  rfl

theorem result_write_of_not (ht : ¬ t.WellFormed) :
    result (write t) world = (.error .unprintable, world) := by
  unfold write
  rw [if_neg ht]
  rfl

theorem result_print (ht : t.WellFormed) :
    result (print t) world = (.ok (), wrote world (t ++ [.char '\n'])) :=
  result_write (by simpa using ht)

theorem result_print_of_not (ht : ¬ t.WellFormed) :
    result (print t) world = (.error .unprintable, world) :=
  result_write_of_not (by simpa using ht)

theorem result_printString (s : String) : result (printString s) world =
    (.ok (), wrote world (Text.ofString s ++ [.char '\n'])) :=
  result_print (wellFormed_ofString s)

theorem result_complain (t : Text) : result (complain t) world = (.ok (), complained world t) :=
  rfl

theorem result_failWith (t : Text) : result (failWith t) world =
    (.ok 1, complained world (Text.ofString "Error: " ++ t)) :=
  rfl

/-- Lines are printed one by one, up to the first that cannot be. -/
theorem result_printEach (l : List α) (f : α → Text) :
    result (forIn l PUnit.unit fun a _ => do
      print (f a)
      pure (ForInStep.yield PUnit.unit)) world =
    if ∀ a ∈ l, (f a).WellFormed then (.ok ⟨⟩, wrote world (printed (l.map f)))
    else (.error .unprintable, wrote world (printed ((l.map f).takeWhile (·.WellFormed)))) := by
  induction l generalizing world with
  | nil => simp [printed]
  | cons a l ih =>
    rw [List.forIn_cons]
    by_cases ha : (f a).WellFormed
    · have hstep := @result_print world _ ha
      simp only [result_bind, result_pure, hstep, ih]
      by_cases hl : ∀ b ∈ l, (f b).WellFormed
      · simp [ha, if_pos hl, printed_cons]
      · simp [ha, if_neg hl, printed_cons]
    · simp [result_print_of_not ha, ha, printed]

end PromptLibrary.Proofs.Command.Console
