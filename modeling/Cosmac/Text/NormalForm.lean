import Cosmac.Text.CombiningClass
import Cosmac.Text.Decomposition

/-!
# Normal forms

Texts that mean the same have one `normalForm`: every character is taken apart, the marks after a
letter are put into the order of their classes, and then what can be put together is put together.
-/

set_option autoImplicit false

namespace Cosmac.Text

/-! ### Order of marks -/

/-- Puts a character before others, behind the marks that come before it. -/
def placeMark (c : Char) : List Char → List Char
  | [] => [c]
  | d :: rest =>
    if combiningClass d ≠ 0 ∧ combiningClass d < combiningClass c then d :: placeMark c rest
    else c :: d :: rest

/-- Characters with the marks after each letter in order. -/
def orderMarks (cs : List Char) : List Char :=
  cs.foldr placeMark []

/-! ### Composition -/

/-- Puts a character together with the marks after it, as far as nothing stands between them. The
marks that were passed, last first, belong to no composite; a mark is out of reach behind one of its
class or a higher one, which is `barrier`. -/
def absorbMarks (c : Char) (barrier : Nat) (passed : List Char) : List Char → Char × List Char
  | [] => (c, passed.reverse)
  | mark :: rest =>
    let level := combiningClass mark
    if barrier ≠ 0 ∧ level = 0 then (c, passed.reverse ++ mark :: rest)
    else if barrier ≠ 0 ∧ level ≤ barrier then absorbMarks c barrier (mark :: passed) rest
    else
      match composite? c mark with
      | some composite => absorbMarks composite barrier passed rest
      | none =>
        if level = 0 then (c, passed.reverse ++ mark :: rest)
        else absorbMarks c level (mark :: passed) rest

theorem length_absorbMarks_le (c : Char) (barrier : Nat) (passed cs : List Char) :
    (absorbMarks c barrier passed cs).2.length ≤ passed.length + cs.length := by
  induction cs generalizing c barrier passed with
  | nil => simp [absorbMarks]
  | cons mark rest ih =>
    simp only [absorbMarks]
    split
    · simp
    · split
      · refine Nat.le_trans (ih ..) ?_
        simp only [List.length_cons]
        omega
      · split
        · refine Nat.le_trans (ih ..) ?_
          simp only [List.length_cons]
          omega
        · split
          · simp
          · refine Nat.le_trans (ih ..) ?_
            simp only [List.length_cons]
            omega

/-- Characters put together with the marks after them. -/
def composed : List Char → List Char
  | [] => []
  | c :: rest =>
    let absorbed := absorbMarks c 0 [] rest
    absorbed.1 :: composed absorbed.2
termination_by cs => cs.length
decreasing_by
  have := length_absorbMarks_le c 0 [] rest
  simp only [List.length_cons, List.length_nil] at *
  omega

/-! ### The normal form -/

/-- The normal form of characters. -/
def normalForm (cs : List Char) : List Char :=
  composed (orderMarks (cs.flatMap decomposed))

end Cosmac.Text
