import Mathlib.Data.List.Basic
import Signpost.Unicode.Class

/-!
# Numbers within ASCII

The tables of letters and signs that are numbers begin beyond ASCII, so that
within it just the ten digits are numbers.
-/

namespace Signpost.Unicode

namespace Ranges

def IsBeyond (ranges : Ranges) : Prop := (ranges.bounds.all (128 ≤ ·)) = true

private theorem countFrom_eq {bounds : Array Nat} {code : Nat}
    (hbounds : bounds.all (128 ≤ ·))
    (hcode : code < 128) (fuel low : Nat) : ∀ high ≤ bounds.size,
    countFrom bounds code fuel low high = low := by
  induction fuel with
  | zero => exact fun _ _ => rfl
  | succ fuel ih =>
      intro high hhigh
      rw [countFrom]
      split
      · next hlow =>
          have hmiddle : (low + high) / 2 < bounds.size := by omega
          have hbound : 128 ≤ bounds[(low + high) / 2] := by
            simpa using Array.all_eq_true.mp hbounds _ hmiddle
          simp only [Array.getD_eq_getD_getElem?,
            Array.getElem?_eq_getElem hmiddle, Option.getD_some]
          rw [if_neg (by omega)]
          exact ih _ (by omega)
      · rfl

theorem IsBeyond.contains_eq {ranges : Ranges} (h : ranges.IsBeyond) {c : Char}
    (hc : c.toNat < 128) : ranges.contains c = false := by
  rw [contains, countFrom_eq h hc 32 0 _ (Nat.le_refl _)]
  rfl

/-- A reading that keeps of its bounds only whether all lie beyond ASCII. -/
structure Survey where
  low : Option Nat := none
  value : Nat := 0
  started : Bool := false
  beyond : Bool := true

def Survey.finish (survey : Survey) : Bool :=
  if survey.started then
    survey.beyond && decide (128 ≤ survey.low.getD survey.value) &&
      decide (128 ≤ survey.value + 1)
  else survey.beyond

def Survey.step (survey : Survey) (c : Char) : Survey :=
  if c = '-' then { survey with low := some survey.value, value := 0 }
  else if c = ' ' then { beyond := survey.finish }
  else { survey with value := survey.value * 16 + hexValue c, started := true }

def Survey.lines (survey : Survey) (lines : List String) : Survey :=
  lines.foldl
    (fun survey text => (text.toList.foldl Survey.step survey).step ' ') survey

theorem Survey.lines_nil (survey : Survey) : survey.lines [] = survey := rfl

theorem Survey.lines_cons (survey : Survey) (text : String)
    (lines : List String) :
    survey.lines (text :: lines) =
      ((text.toList.foldl Survey.step survey).step ' ').lines lines := rfl

def Reading.survey (reading : Reading) : Survey :=
  ⟨reading.low, reading.value, reading.started, reading.bounds.all (128 ≤ ·)⟩

theorem Reading.finish_survey (reading : Reading) :
    reading.finish.all (128 ≤ ·) = reading.survey.finish := by
  rw [finish, Survey.finish]
  split
  · next h => simp [survey, h, Bool.and_assoc]
  · next h => simp [survey, h]

theorem Reading.step_survey (reading : Reading) (c : Char) :
    (reading.step c).survey = reading.survey.step c := by
  rw [step, Survey.step]
  split
  · rfl
  split
  · rw [← reading.finish_survey]
    rfl
  · rfl

private theorem Reading.foldl_survey (text : List Char) : ∀ reading : Reading,
    (text.foldl step reading).survey =
      text.foldl Survey.step reading.survey := by
  induction text with
  | nil => exact fun _ => rfl
  | cons c text ih =>
      intro reading
      rw [List.foldl_cons, List.foldl_cons, ih, step_survey]

private theorem Reading.line_survey (reading : Reading) (text : String) :
    (reading.line text).survey =
      (text.toList.foldl Survey.step reading.survey).step ' ' := by
  rw [line, String.foldl_eq_foldl_toList, step_survey, foldl_survey]

private theorem Reading.lines_survey (lines : List String) :
    ∀ reading : Reading,
    (lines.foldl line reading).survey = reading.survey.lines lines := by
  induction lines with
  | nil => exact fun _ => rfl
  | cons text lines ih =>
      intro reading
      rw [List.foldl_cons, ih, line_survey, Survey.lines_cons]

theorem isBeyond_ofLines {lines : List String}
    (h : (Survey.lines {} lines).finish = true) :
    (ofLines lines).IsBeyond := by
  have hempty : Reading.survey {} = {} := by simp [Reading.survey]
  rw [IsBeyond, ofLines, Reading.finish_survey, Reading.lines_survey, hempty]
  exact h

end Ranges

private theorem letterNumber_isBeyond : Category.letterNumber.IsBeyond := by
  refine Ranges.isBeyond_ofLines ?_
  simp only [Ranges.Survey.lines_cons, Ranges.Survey.lines_nil]
  -- a line is decided as a list of characters, not decoded from its bytes
  repeat rw [String.toList_ofList]
  decide +kernel

private theorem otherNumber_isBeyond : Category.otherNumber.IsBeyond := by
  refine Ranges.isBeyond_ofLines ?_
  simp only [Ranges.Survey.lines_cons, Ranges.Survey.lines_nil]
  repeat rw [String.toList_ofList]
  decide +kernel

theorem isAlphanumeric_ascii {c : Char} (hc : c.toNat < 128) :
    isAlphanumeric c = c.isAlphanum := by
  rw [isAlphanumeric, isAlphabetic, if_pos hc, isNumeric, isDecimal, if_pos hc,
    letterNumber_isBeyond.contains_eq hc, otherNumber_isBeyond.contains_eq hc]
  simp [Char.isAlphanum]

end Signpost.Unicode
