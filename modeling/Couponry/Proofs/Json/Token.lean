import Couponry.Json.Printer
import Couponry.Json.Token
import Couponry.Proofs.Text.Numeral

/-!
# The tokens of a written value

The machine that cuts a text into tokens finds in a written value the tokens of its parts, in their
order. A number only ends where something follows that is no part of it, so a value is always
followed by the end of the text or by what stands behind an item or a member.
-/

namespace Couponry.Json

open Couponry.Text

/-! ## Values -/

mutual

/-- The numbers have at most 64 binary digits, and at most `depth` containers enclose one another. -/
def fits : Nat → Json → Bool
  | _, .null => true
  | _, .bool _ => true
  | _, .int n => decide (n.natAbs < 2 ^ 64)
  | _, .text _ => true
  | 0, .array _ => false
  | depth + 1, .array items => fitsItems depth items
  | 0, .object _ => false
  | depth + 1, .object members => fitsMembers depth members

/-- `fits` of every item. -/
def fitsItems : Nat → List Json → Bool
  | _, [] => true
  | depth, v :: rest => fits depth v && fitsItems depth rest

/-- `fits` of every member. -/
def fitsMembers : Nat → List (String × Json) → Bool
  | _, [] => true
  | depth, (_, v) :: rest => fits depth v && fitsMembers depth rest

end

mutual

/-- The tokens of a value. -/
def tokens : Json → List Token
  | .null => [.null]
  | .bool b => [.bool b]
  | .int n => [.int n]
  | .text s => [.text s]
  | .array [] => [.openArray, .closeArray]
  | .array (v :: rest) => .openArray :: tokens v ++ itemTokens rest
  | .object [] => [.openObject, .closeObject]
  | .object ((k, v) :: rest) => .openObject :: .text k :: .colon :: tokens v ++ memberTokens rest

/-- The tokens of the items after the first, and the end of the array. -/
def itemTokens : List Json → List Token
  | [] => [.closeArray]
  | v :: rest => .comma :: tokens v ++ itemTokens rest

/-- The tokens of the members after the first, and the end of the object. -/
def memberTokens : List (String × Json) → List Token
  | [] => [.closeObject]
  | (k, v) :: rest => .comma :: .text k :: .colon :: tokens v ++ memberTokens rest

end

/-! ## The machine -/

namespace Mode

theorem tokens_cons (mode : Mode) (c : Char) (cs : List Char) :
    mode.tokens (c :: cs) = (mode.step c).1 ++ (mode.step c).2.tokens cs := rfl

/-- A character that is a token, or starts one. -/
theorem tokens_between {c : Char} {ts : List Token} {next : Mode} (h : start c = (ts, next))
    (cs : List Char) : between.tokens (c :: cs) = ts ++ next.tokens cs := by
  rw [tokens_cons, step, h]

theorem tokens_openArray (cs : List Char) :
    between.tokens ('[' :: cs) = .openArray :: between.tokens cs := rfl

theorem tokens_openObject (cs : List Char) :
    between.tokens ('\x7b' :: cs) = .openObject :: between.tokens cs := rfl

theorem tokens_comma (cs : List Char) :
    between.tokens (',' :: cs) = .comma :: between.tokens cs := rfl

theorem tokens_colon (cs : List Char) :
    between.tokens (':' :: cs) = .colon :: between.tokens cs := rfl

end Mode

/-! ## Strings -/

theorem hexValue_hexDigit {n : Nat} (h : n < 16) : hexValue (hexDigit n) = some n := by
  have all : ∀ n : Fin 16, hexValue (hexDigit n) = some n.val := by decide
  exact all ⟨n, h⟩

/-- The piece is read as the character. -/
def Piece.Means (p : Piece) (c : Char) : Prop :=
  ∀ ps, joinPieces (p :: ps) = (joinPieces ps).map (c :: ·)

theorem Piece.means_char (c : Char) : (Piece.char c).Means c := fun _ => rfl

theorem Piece.means_unit {c : Char} (control : c.toNat < 0x20) : (Piece.unit c.toNat).Means c := by
  intro ps
  have high : isHighSurrogate c.toNat = false := by
    rw [isHighSurrogate, decide_eq_false_iff_not]
    omega
  have low : isLowSurrogate c.toNat = false := by
    rw [isLowSurrogate, decide_eq_false_iff_not]
    omega
  rw [joinPieces.eq_def]
  simp only [high, low, Bool.false_eq_true, if_false, Char.ofNat_toNat]

/-- The machine reads what was written for a character. -/
theorem tokens_escapeChar (c : Char) : ∃ p : Piece, p.Means c ∧ ∀ done rest,
    (Mode.text done).tokens (escapeChar c ++ rest) = (Mode.text (p :: done)).tokens rest := by
  by_cases short : c ∈ ['"', '\\', '\x08', '\x0c', '\n', '\r', '\t']
  · refine ⟨.char c, Piece.means_char c, fun done rest => ?_⟩
    simp only [List.mem_cons, List.not_mem_nil, or_false] at short
    rcases short with rfl | rfl | rfl | rfl | rfl | rfl | rfl <;> rfl
  · simp only [List.mem_cons, List.not_mem_nil, or_false, not_or] at short
    obtain ⟨quote, backslash, h1, h2, h3, h4, h5⟩ := short
    by_cases control : c.toNat < 0x20
    · refine ⟨.unit c.toNat, Piece.means_unit control, fun done rest => ?_⟩
      have written : escapeChar c =
          ['\\', 'u', '0', '0', hexDigit (c.toNat / 16), hexDigit (c.toNat % 16)] := by
        simp only [escapeChar, quote, backslash, h1, h2, h3, h4, h5, control, if_false, if_true]
      have zero : hexValue '0' = some 0 := by decide
      have value : c.toNat / 16 * 16 + c.toNat % 16 = c.toNat := by omega
      rw [written]
      simp only [List.cons_append, List.nil_append, Mode.tokens_cons]
      simp only [Mode.step, zero, hexValue_hexDigit (n := c.toNat / 16) (by omega),
        hexValue_hexDigit (n := c.toNat % 16) (by omega)]
      simp [value]
    · refine ⟨.char c, Piece.means_char c, fun done rest => ?_⟩
      have written : escapeChar c = [c] := by
        simp only [escapeChar, quote, backslash, h1, h2, h3, h4, h5, control, if_false]
      rw [written, List.singleton_append, Mode.tokens_cons]
      simp only [Mode.step, quote, backslash, control, if_false, List.nil_append]

theorem tokens_escaped (cs : List Char) : ∃ ps, joinPieces ps = some cs ∧ ∀ done rest,
    (Mode.text done).tokens (cs.flatMap escapeChar ++ rest) =
      (Mode.text (ps.reverse ++ done)).tokens rest := by
  induction cs with
  | nil => exact ⟨[], rfl, fun _ _ => rfl⟩
  | cons c cs ih =>
    obtain ⟨p, means, first⟩ := tokens_escapeChar c
    obtain ⟨ps, joined, others⟩ := ih
    refine ⟨p :: ps, by rw [means, joined, Option.map_some], fun done rest => ?_⟩
    rw [List.flatMap_cons, List.append_assoc, first, others, List.reverse_cons, List.append_assoc,
      List.singleton_append]

/-- A string is one token. -/
theorem tokens_quoted (s : String) (rest : List Char) :
    Mode.between.tokens (quoted s ++ rest) = .text s :: Mode.between.tokens rest := by
  obtain ⟨ps, joined, read⟩ := tokens_escaped s.toList
  have opened : Mode.start '"' = ([], .text []) := by decide
  rw [quoted, List.cons_append, List.cons_append, Mode.tokens_between opened, List.append_assoc,
    List.nil_append, read, List.singleton_append, Mode.tokens_cons]
  simp [Mode.step, Token.ofPieces, joined]

/-! ## Numbers -/

/-- What may follow a value. -/
def Ends (rest : List Char) : Prop :=
  ∀ c cs, rest = c :: cs → c = ',' ∨ c = ']' ∨ c = '\x7d'

namespace Magnitude

/-- Rounding at most doubles a number of 64 binary digits. -/
theorem nearest_le {n : Nat} (small : n < 2 ^ 64) : nearest n ≤ 2 ^ 65 := by
  have unit : 2 ^ (n.log2 - 52) ≤ 2 ^ 64 := by
    refine Nat.pow_le_pow_right (by decide) ?_
    by_cases zero : n = 0
    · subst zero
      decide
    · have := (Nat.log2_lt zero).2 small
      omega
  unfold nearest
  simp only
  split
  · omega
  · omega

theorem overflows_of_lt {n : Nat} (small : n < 2 ^ 64) : overflows n 0 = false := by
  have one : nearest (10 ^ (0 : Int).toNat) = 1 := nearest_of_lt (by decide)
  have bound : nearest n ≤ 2 ^ 65 := nearest_le small
  have large : 2 ^ 65 < infinity := by decide +kernel
  unfold overflows
  split
  · rfl
  · rw [if_neg (by decide), one, Nat.mul_one, decide_eq_false_iff_not]
    omega

end Magnitude

/-- More digits make no number smaller. -/
theorem le_ofDigitChars (ds : List Char) (n : Nat) : n ≤ Nat.ofDigitChars 10 ds n := by
  induction ds generalizing n with
  | nil => exact Nat.le_refl n
  | cons c ds ih =>
    rw [Nat.ofDigitChars_cons]
    have := ih (10 * n + (c.toNat - '0'.toNat))
    omega

/-- The digits of the whole part are taken, as long as 64 bits hold them. -/
theorem tokens_whole (ds : List Char) {n : Numeral} (phase : n.phase = .whole) (shift : n.shift = 0)
    (digits : ∀ c ∈ ds, c.isDigit = true) (small : Nat.ofDigitChars 10 ds n.significand < 2 ^ 64)
    (rest : List Char) : (Mode.number n).tokens (ds ++ rest) =
      (Mode.number { n with
        significand := Nat.ofDigitChars 10 ds n.significand
        spelling := ds.reverse ++ n.spelling }).tokens rest := by
  induction ds generalizing n with
  | nil => rfl
  | cons c ds ih =>
    have value : n.significand * 10 + digitValue c = 10 * n.significand + (c.toNat - '0'.toNat) := by
      rw [Nat.mul_comm]
      rfl
    rw [Nat.ofDigitChars_cons, ← value] at small
    have first := le_ofDigitChars ds (n.significand * 10 + digitValue c)
    have held : Magnitude.append n.significand (digitValue c) =
        some (n.significand * 10 + digitValue c) := by
      rw [Magnitude.append, if_pos (by omega)]
    have pushed : n.push c = some { n with
        significand := n.significand * 10 + digitValue c, spelling := c :: n.spelling } := by
      simp only [Numeral.push, phase, digits c List.mem_cons_self, if_true, Numeral.pushWhole, shift,
        held]
    rw [List.cons_append, Mode.tokens_cons]
    simp only [Mode.step, pushed, List.nil_append]
    rw [ih (n := { n with
        significand := n.significand * 10 + digitValue c, spelling := c :: n.spelling }) phase shift
        (fun d later => digits d (List.mem_cons_of_mem _ later)) small,
      Nat.ofDigitChars_cons, ← value, List.reverse_cons, List.append_assoc, List.singleton_append]

/-- A number of digits alone ends before what follows it. -/
theorem tokens_number {n : Numeral} (phase : n.phase = .zero ∨ n.phase = .whole) {rest : List Char}
    (ends : Ends rest) :
    (Mode.number n).tokens rest = n.token :: Mode.between.tokens rest := by
  cases rest with
  | nil => rfl
  | cons c rest =>
    have digit : c.isDigit = false := by
      rcases ends c rest rfl with rfl | rfl | rfl <;> decide
    have tail : n.pushTail c = none := by
      rcases ends c rest rfl with rfl | rfl | rfl <;> rfl
    have stuck : n.push c = none := by
      rcases phase with phase | phase <;> simp [Numeral.push, phase, digit, tail]
    have complete : n.complete = true := by
      rcases phase with phase | phase <;> simp [Numeral.complete, phase]
    rw [Mode.tokens_cons, Mode.tokens_cons]
    simp [Mode.step, stuck, complete, digit]

/-- The numeral of a whole number, once its digits are read. -/
def numeralOf (n : Int) : Numeral where
  phase := if n = 0 then .zero else .whole
  negative := decide (n < 0)
  significand := n.natAbs
  spelling := (integerChars n).reverse

theorem token_numeralOf {n : Int} (small : n.natAbs < 2 ^ 64) : (numeralOf n).token = .int n := by
  have complete : (numeralOf n).complete = true := by
    by_cases zero : n = 0 <;> simp [numeralOf, Numeral.complete, zero]
  have fits : (numeralOf n).overflows = false := Magnitude.overflows_of_lt small
  have value : (numeralOf n).whole = n.natAbs := by
    have digit : ∀ c ∈ digits n.natAbs, c.isDigit = true := fun _ => isDigit_of_mem_digits
    show ofDigits ((integerChars n).reverse.reverse.filter Char.isDigit) = _
    rw [List.reverse_reverse]
    unfold integerChars
    split
    · have minus : ¬ ('-').isDigit = true := by decide
      rw [List.filter_cons_of_neg minus, List.filter_eq_self.2 digit, ofDigits_digits]
    · rw [List.filter_eq_self.2 digit, ofDigits_digits]
  rw [Numeral.token, complete, fits]
  simp only [Bool.not_true, Bool.false_eq_true, if_false, value]
  by_cases zero : n = 0
  · subst zero
    rfl
  · have phase : (numeralOf n).phase = .whole := if_neg zero
    rw [phase]
    by_cases negative : n < 0
    · have sign : (numeralOf n).negative = true := decide_eq_true negative
      have some : n.natAbs ≠ 0 := by omega
      have same : -(n.natAbs : Int) = n := by omega
      simp only [sign, if_true, some, if_false, same]
    · have sign : (numeralOf n).negative = false := decide_eq_false negative
      have same : (n.natAbs : Int) = n := by omega
      simp only [sign, Bool.false_eq_true, if_false, same]

/-- A digit starts a number. -/
theorem start_of_isDigit {c : Char} (digit : c.isDigit = true) (nonzero : c ≠ '0') :
    Mode.start c =
      ([], .number { phase := .whole, significand := digitValue c, spelling := [c] }) := by
  have other : ∀ d : Char, d.isDigit = false → c ≠ d := fun _ => ne_of_isDigit digit
  have space : isSpace c = false := by
    simp [isSpace, other ' ' rfl, other '\t' rfl, other '\n' rfl, other '\r' rfl]
  simp [Mode.start, space, Numeral.start, digit, nonzero, other '[' rfl, other ']' rfl,
    other '\x7b' rfl, other '\x7d' rfl, other ',' rfl, other ':' rfl, other '"' rfl, other 't' rfl,
    other 'f' rfl, other 'n' rfl, other '-' rfl]

/-- The machine reads the digits of a whole number. -/
theorem tokens_digits {n : Int} (small : n.natAbs < 2 ^ 64) (rest : List Char) :
    Mode.between.tokens (integerChars n ++ rest) = (Mode.number (numeralOf n)).tokens rest := by
  by_cases zero : n = 0
  · subst zero
    rfl
  obtain ⟨c, cs, written, notZero⟩ := digits_of_pos (n := n.natAbs) (by omega)
  have digit : ∀ d ∈ c :: cs, d.isDigit = true := fun d member =>
    isDigit_of_mem_digits (n := n.natAbs) (written ▸ member)
  have value : Nat.ofDigitChars 10 cs (digitValue c) = n.natAbs := by
    have whole := ofDigits_digits n.natAbs
    rw [written, ofDigits, Nat.ofDigitChars_cons] at whole
    rw [← whole, Nat.mul_zero, Nat.zero_add]
    rfl
  have held : Magnitude.append 0 (digitValue c) = some (digitValue c) := by
    have bound := le_ofDigitChars cs (digitValue c)
    rw [Magnitude.append, Nat.zero_mul, Nat.zero_add, if_pos (by omega)]
  have others : ∀ d ∈ cs, d.isDigit = true := fun d later => digit d (List.mem_cons_of_mem _ later)
  have small' : Nat.ofDigitChars 10 cs (digitValue c) < 2 ^ 64 := value ▸ small
  by_cases negative : n < 0
  · have chars : integerChars n = '-' :: c :: cs := by rw [integerChars, if_pos negative, written]
    have minus : Mode.start '-' =
        ([], .number { phase := .sign, negative := true, spelling := ['-'] }) := by decide
    have first : Numeral.push { phase := .sign, negative := true, spelling := ['-'] } c = some
        { phase := .whole, negative := true, significand := digitValue c, spelling := [c, '-'] } := by
      simp [Numeral.push, notZero, digit c List.mem_cons_self, Numeral.pushWhole, held]
    have whole := tokens_whole cs (n := ⟨.whole, true, digitValue c, 0, false, false, 0, [c, '-']⟩)
      rfl rfl others small' rest
    rw [chars, List.cons_append, List.cons_append, Mode.tokens_between minus, Mode.tokens_cons]
    simp only [Mode.step, first, List.nil_append, whole]
    simp [numeralOf, zero, negative, chars, value]
  · have chars : integerChars n = c :: cs := by rw [integerChars, if_neg negative, written]
    have whole := tokens_whole cs (n := ⟨.whole, false, digitValue c, 0, false, false, 0, [c]⟩)
      rfl rfl others small' rest
    rw [chars, List.cons_append,
      Mode.tokens_between (start_of_isDigit (digit c List.mem_cons_self) notZero), whole]
    simp [numeralOf, zero, negative, chars, value]

/-- **A whole number is one token.** -/
theorem tokens_integerChars {n : Int} (small : n.natAbs < 2 ^ 64) {rest : List Char}
    (ends : Ends rest) :
    Mode.between.tokens (integerChars n ++ rest) = .int n :: Mode.between.tokens rest := by
  have phase : (numeralOf n).phase = .zero ∨ (numeralOf n).phase = .whole := by
    by_cases zero : n = 0
    · exact .inl (if_pos zero)
    · exact .inr (if_neg zero)
  rw [tokens_digits small, tokens_number phase ends, token_numeralOf small]

/-! ## Whole values -/

theorem Ends.close (rest : List Char) : Ends (']' :: rest) := by
  rintro c cs ⟨⟩
  exact .inr (.inl rfl)

theorem Ends.comma (rest : List Char) : Ends (',' :: rest) := by
  rintro c cs ⟨⟩
  exact .inl rfl

theorem ends_itemChars (items : List Json) (rest : List Char) : Ends (itemChars items ++ rest) := by
  cases items with
  | nil => exact .close rest
  | cons v items => exact .comma _

theorem ends_memberChars (members : List (String × Json)) (rest : List Char) :
    Ends (memberChars members ++ rest) := by
  cases members with
  | nil =>
    rintro c cs ⟨⟩
    exact .inr (.inr rfl)
  | cons m members => exact .comma _

mutual

/-- **The tokens of a written value**, whatever stands behind it. -/
theorem tokens_chars : ∀ (j : Json) {depth : Nat} {rest : List Char}, j.fits depth = true →
    Ends rest → Mode.between.tokens (j.chars ++ rest) = j.tokens ++ Mode.between.tokens rest
  | .null, _, _, _, _ => rfl
  | .bool true, _, _, _, _ => rfl
  | .bool false, _, _, _, _ => rfl
  | .int n, _, _, small, ends => by
    rw [fits, decide_eq_true_eq] at small
    exact tokens_integerChars small ends
  | .text s, _, rest, _, _ => tokens_quoted s rest
  | .array [], _, _, _, _ => rfl
  | .array (v :: items), depth + 1, rest, small, _ => by
    rw [fits, fitsItems, Bool.and_eq_true] at small
    rw [chars, tokens, List.append_assoc, List.cons_append, Mode.tokens_openArray,
      tokens_chars v small.1 (ends_itemChars items rest), tokens_itemChars items small.2,
      List.append_assoc, List.cons_append]
  | .object [], _, _, _, _ => rfl
  | .object ((k, v) :: members), depth + 1, rest, small, _ => by
    rw [fits, fitsMembers, Bool.and_eq_true] at small
    rw [chars, tokens, List.append_assoc, List.append_assoc, List.cons_append,
      Mode.tokens_openObject, tokens_quoted, List.cons_append, Mode.tokens_colon,
      tokens_chars v small.1 (ends_memberChars members rest), tokens_memberChars members small.2,
      List.append_assoc, List.cons_append, List.cons_append, List.cons_append]

/-- The tokens of written items. -/
theorem tokens_itemChars : ∀ (items : List Json) {depth : Nat} {rest : List Char},
    fitsItems depth items = true →
      Mode.between.tokens (itemChars items ++ rest) = itemTokens items ++ Mode.between.tokens rest
  | [], _, _, _ => rfl
  | v :: items, _, rest, small => by
    rw [fitsItems, Bool.and_eq_true] at small
    rw [itemChars, itemTokens, List.append_assoc, List.cons_append, Mode.tokens_comma,
      tokens_chars v small.1 (ends_itemChars items rest), tokens_itemChars items small.2,
      List.append_assoc, List.cons_append]

/-- The tokens of written members. -/
theorem tokens_memberChars : ∀ (members : List (String × Json)) {depth : Nat} {rest : List Char},
    fitsMembers depth members = true → Mode.between.tokens (memberChars members ++ rest) =
      memberTokens members ++ Mode.between.tokens rest
  | [], _, _, _ => rfl
  | (k, v) :: members, _, rest, small => by
    rw [fitsMembers, Bool.and_eq_true] at small
    rw [memberChars, memberTokens, List.append_assoc, List.append_assoc, List.cons_append,
      Mode.tokens_comma, tokens_quoted, List.cons_append, Mode.tokens_colon,
      tokens_chars v small.1 (ends_memberChars members rest), tokens_memberChars members small.2,
      List.append_assoc, List.cons_append, List.cons_append, List.cons_append]

end

/-- The tokens of the text of a value. -/
theorem ofText_render {j : Json} {depth : Nat} (small : j.fits depth = true) :
    Token.ofText j.render.toList = j.tokens := by
  have nothing : Ends [] := by rintro c cs ⟨⟩
  have whole := tokens_chars j small nothing
  rw [List.append_nil] at whole
  rw [Token.ofText, render, String.toList_ofList, whole]
  exact List.append_nil _

end Couponry.Json
