import Couponry.Proofs.Text.Numeral
import Couponry.Text.Blank

/-!
# Texts with and without blanks

White space listed point by point is what the blank ranges hold. No digit is a blank, and trimming leaves a
text without blanks as it is.
-/

namespace Couponry.Text

/-! ## White space -/

/-- The code points of white space, one by one. -/
def whiteSpace : List Nat :=
  [0x09, 0x0A, 0x0B, 0x0C, 0x0D, 0x20, 0x85, 0xA0, 0x1680, 0x2000, 0x2001, 0x2002, 0x2003, 0x2004, 0x2005,
    0x2006, 0x2007, 0x2008, 0x2009, 0x200A, 0x2028, 0x2029, 0x202F, 0x205F, 0x3000]

/-- There is nothing but white space in the text. -/
def OnlyWhiteSpace (s : String) : Prop :=
  ∀ c ∈ s.toList, c.toNat ∈ whiteSpace

theorem isBlank_iff {c : Char} : isBlank c = true ↔ c.toNat ∈ whiteSpace := by
  simp only [isBlank, blankRanges, List.any_cons, List.any_nil, Bool.or_eq_true, Bool.false_eq_true,
    decide_eq_true_eq, whiteSpace, List.mem_cons, List.not_mem_nil, or_false]
  omega

theorem allBlank_eq_false_iff {s : String} : allBlank s = false ↔ ¬OnlyWhiteSpace s := by
  rw [← Bool.not_eq_true, allBlank, List.all_eq_true, OnlyWhiteSpace]
  simp only [isBlank_iff]

/-! ## Texts without blanks -/

/-- A digit is no blank. -/
theorem isBlank_of_isDigit {c : Char} (digit : c.isDigit = true) : isBlank c = false := by
  have bounds := toNat_of_isDigit digit
  rw [isBlank, List.any_eq_false]
  intro r member
  simp only [blankRanges, List.mem_cons, List.not_mem_nil, or_false] at member
  rw [decide_eq_true_eq]
  rcases member with rfl | rfl | rfl | rfl | rfl | rfl | rfl | rfl | rfl | rfl <;> simp only <;> omega

/-- Nothing is trimmed from a text without blanks. -/
theorem trim_eq_self {s : String} (solid : ∀ c ∈ s.toList, isBlank c = false) : trim s = s := by
  have kept : ∀ cs : List Char, (∀ c ∈ cs, isBlank c = false) → trimStart cs = cs := by
    intro cs free
    cases cs with
    | nil => rfl
    | cons c cs => exact List.dropWhile_cons_of_neg (by simp [free c List.mem_cons_self])
  have back : ∀ c ∈ s.toList.reverse, isBlank c = false := fun c member =>
    solid c (List.mem_reverse.1 member)
  rw [trim, kept s.toList solid, kept _ back, List.reverse_reverse, String.ofList_toList]

end Couponry.Text
