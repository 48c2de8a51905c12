import Cosmac.Framebuffer.Image

/-!
# Runs of equal neighbours

Rows of a picture repeat colours, and pictures repeat rows. `runLengths` takes equal neighbours
together, and `Image.runs` does so both ways.
-/

set_option autoImplicit false

namespace Cosmac

/-- The elements of a list with the numbers of their repetitions. Neighbours differ. -/
def runLengths {α : Type} [BEq α] : List α → List (α × Nat)
  | [] => []
  | x :: rest =>
    match runLengths rest with
    | (y, count) :: more => if x == y then (y, count + 1) :: more else (x, 1) :: (y, count) :: more
    | [] => [(x, 1)]

/-- The rows of a picture by their runs of colours, each with the number of its repetitions. -/
def Image.runs (image : Image) : List (List (Color × Nat) × Nat) :=
  (runLengths image.rows).map fun (row, count) ↦ (runLengths row, count)

end Cosmac
