import Mathlib.Data.List.Basic

/-!
# Texts of fields

A text is cut at the first of a separator, or divided at each.  One which was put together of parts
without the separator falls into those parts again.
-/

namespace Fields

variable {Symbol : Type} [DecidableEq Symbol]

/-- The part of a text before the first of a separator, and the part after it. -/
def cut (separator : Symbol) (text : List Symbol) : List Symbol × List Symbol :=
  (text.takeWhile (· ≠ separator), (text.dropWhile (· ≠ separator)).drop 1)

theorem cut_append_cons {separator : Symbol} {front : List Symbol} (absent : separator ∉ front)
    (back : List Symbol) : cut separator (front ++ separator :: back) = (front, back) := by
  have kept : ∀ other ∈ front, decide (other ≠ separator) = true := fun other member =>
    decide_eq_true fun same => absent (same ▸ member)
  rw [cut, List.takeWhile_append_of_pos kept, List.dropWhile_append_of_pos kept]
  simp

/-- Lines which each end with a separator are divided into them, and an empty rest. -/
theorem splitOn_terminated {separator : Symbol} {lines : List (List Symbol)}
    (plain : ∀ line ∈ lines, separator ∉ line) :
    (lines.flatMap fun line => line ++ [separator]).splitOn separator = lines ++ [[]] := by
  induction lines with
  | nil => simp
  | cons line lines induction =>
      have rest := induction fun other member => plain other (List.mem_cons_of_mem _ member)
      rw [List.flatMap_cons, List.append_assoc, List.singleton_append,
        List.splitOn_append_cons_self_of_not_mem (plain line List.mem_cons_self), rest,
        List.cons_append]

/-! ## Numbers -/

/-- A number in decimal digits. -/
def readDecimal (text : List Char) : Option Nat :=
  if text ≠ [] ∧ text.all Char.isDigit then some (Nat.ofDigitChars 10 text 0) else none

theorem digits_toString (number : Nat) :
    (toString number).toList ≠ [] ∧ (toString number).toList.all Char.isDigit = true := by
  have digits : (toString number).toList = Nat.toDigits 10 number := Nat.toList_repr
  rw [digits]
  refine ⟨Nat.toDigits_ne_nil, List.all_eq_true.mpr fun char member => ?_⟩
  exact Nat.isDigit_of_mem_toDigits (by decide) (by decide) member

theorem readDecimal_toString (number : Nat) :
    readDecimal (toString number).toList = some number := by
  have digits : (toString number).toList = Nat.toDigits 10 number := Nat.toList_repr
  rw [readDecimal, if_pos (digits_toString number), digits, Nat.ofDigitChars_ten_toDigits]

/-- A printed number has no character but digits. -/
theorem not_mem_toString (number : Nat) {char : Char} (other : char.isDigit = false) :
    char ∉ (toString number).toList := by
  intro member
  have digit := List.all_eq_true.mp (digits_toString number).2 char member
  rw [other] at digit
  cases digit

end Fields
