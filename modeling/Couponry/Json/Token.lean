import Couponry.Json.Basic
import Couponry.Json.Magnitude
import Couponry.Text.Numeral

/-!
# JSON tokens

A JSON text is cut into tokens by a machine that reads one character at a time, so `Token.ofText`
is a fold and needs no bound. Two tokens stand for what cannot be used: `broken` ends the stream
at the first character that fits no token, and `unreadable` is a well-formed token without a
value, which may be skipped but not read: a string with an unpaired surrogate escape, or a number
beyond the range of a double.
-/

namespace Couponry.Json

open Couponry.Text

/-- A lexical unit of a JSON text. -/
inductive Token where
  | openArray
  | closeArray
  | openObject
  | closeObject
  | comma
  | colon
  | null
  | bool (value : Bool)
  | int (value : Int)
  /-- A number with a fraction or an exponent, or a negative zero, as it is spelled. -/
  | real (spelling : String)
  | text (value : String)
  | unreadable
  | broken
  deriving DecidableEq, Repr

/-! ## Strings -/

/-- Part of a string: a character, or the 16-bit unit that a `\u` escape gives. -/
inductive Piece where
  | char (c : Char)
  | unit (code : Nat)
  deriving DecidableEq, Repr

/-- The first half of a surrogate pair. -/
def isHighSurrogate (u : Nat) : Bool :=
  decide (0xD800 ≤ u ∧ u < 0xDC00)

/-- The second half of a surrogate pair. -/
def isLowSurrogate (u : Nat) : Bool :=
  decide (0xDC00 ≤ u ∧ u < 0xE000)

/-- Joins surrogate pairs to characters; an unpaired half has no character. -/
def joinPieces : List Piece → Option (List Char)
  | [] => some []
  | .char c :: rest => (joinPieces rest).map (c :: ·)
  | .unit u :: rest =>
    if isHighSurrogate u then
      match rest with
      | .unit v :: rest =>
        if isLowSurrogate v then
          (joinPieces rest).map (Char.ofNat (0x10000 + (u - 0xD800) * 0x400 + (v - 0xDC00)) :: ·)
        else none
      | _ => none
    else if isLowSurrogate u then none
    else (joinPieces rest).map (Char.ofNat u :: ·)

/-- The token of a finished string. -/
def Token.ofPieces (pieces : List Piece) : Token :=
  match joinPieces pieces with
  | some cs => .text (String.ofList cs)
  | none => .unreadable

/-- The character that a one-letter escape stands for. -/
def unescape : Char → Option Char
  | '"' => some '"'
  | '\\' => some '\\'
  | '/' => some '/'
  | 'b' => some '\x08'
  | 'f' => some '\x0c'
  | 'n' => some '\n'
  | 'r' => some '\r'
  | 't' => some '\t'
  | _ => none

/-- The value of a hexadecimal digit of either case. -/
def hexValue (c : Char) : Option Nat :=
  if '0' ≤ c ∧ c ≤ '9' then some (c.toNat - 48)
  else if 'a' ≤ c ∧ c ≤ 'f' then some (c.toNat - 87)
  else if 'A' ≤ c ∧ c ≤ 'F' then some (c.toNat - 55)
  else none

/-! ## Numbers -/

/-- How far a number has been read. -/
inductive Phase where
  | sign
  | zero
  | whole
  | point
  | fraction
  | mark
  | markSign
  | exponent
  deriving DecidableEq, Repr

/-- A number on its way. Its value so far is about `significand · 10 ^ (shift ± exponent)`: the
significand holds as many of its leading digits as fit in 64 bits. -/
structure Numeral where
  phase : Phase
  negative : Bool := false
  significand : Nat := 0
  shift : Int := 0
  /-- A digit after the point did not fit, so no more of them are taken. -/
  full : Bool := false
  shrinking : Bool := false
  exponent : Nat := 0
  /-- The characters read, last first. -/
  spelling : List Char
  deriving DecidableEq, Repr

/-- The value of a decimal digit. -/
def digitValue (c : Char) : Nat :=
  c.toNat - 48

namespace Numeral

/-- The numeral that starts with `c`, if one can. -/
def start (c : Char) : Option Numeral :=
  if c = '-' then some { phase := .sign, negative := true, spelling := [c] }
  else if c = '0' then some { phase := .zero, spelling := [c] }
  else if c.isDigit then
    some { phase := .whole, significand := digitValue c, spelling := [c] }
  else none

/-- Another digit of the whole part. Once one does not fit, it and all that follow only shift. -/
def pushWhole (n : Numeral) (c : Char) : Numeral :=
  let n := { n with phase := .whole, spelling := c :: n.spelling }
  match n.shift, Magnitude.append n.significand (digitValue c) with
  | 0, some m => { n with significand := m }
  | shift, _ => { n with shift := shift + 1 }

/-- Another digit after the point. Once one does not fit, it and all that follow are dropped. -/
def pushFraction (n : Numeral) (c : Char) : Numeral :=
  let n := { n with phase := .fraction, spelling := c :: n.spelling }
  match n.full, Magnitude.append n.significand (digitValue c) with
  | false, some m => { n with significand := m, shift := n.shift - 1 }
  | _, _ => { n with full := true }

/-- Another digit of the exponent. -/
def pushExponent (n : Numeral) (c : Char) : Numeral :=
  { n with
    phase := .exponent, exponent := n.exponent * 10 + digitValue c, spelling := c :: n.spelling }

/-- A mark that only moves to another phase. -/
def pushMark (n : Numeral) (phase : Phase) (c : Char) : Numeral :=
  { n with phase := phase, spelling := c :: n.spelling }

/-- An exponent mark, after the digits. -/
def pushExponentMark (n : Numeral) (c : Char) : Option Numeral :=
  if c = 'e' ∨ c = 'E' then some (n.pushMark .mark c) else none

/-- A point or an exponent mark, after the whole part. -/
def pushTail (n : Numeral) (c : Char) : Option Numeral :=
  if c = '.' then some (n.pushMark .point c) else n.pushExponentMark c

/-- The numeral with one more character, if that can follow. -/
def push (n : Numeral) (c : Char) : Option Numeral :=
  match n.phase with
  | .sign =>
    if c = '0' then some (n.pushMark .zero c) else if c.isDigit then some (n.pushWhole c) else none
  | .zero => n.pushTail c
  | .whole => if c.isDigit then some (n.pushWhole c) else n.pushTail c
  | .point => if c.isDigit then some (n.pushFraction c) else none
  | .fraction => if c.isDigit then some (n.pushFraction c) else n.pushExponentMark c
  | .mark =>
    if c = '+' then some (n.pushMark .markSign c)
    else if c = '-' then some { n.pushMark .markSign c with shrinking := true }
    else if c.isDigit then some (n.pushExponent c) else none
  | .markSign => if c.isDigit then some (n.pushExponent c) else none
  | .exponent => if c.isDigit then some (n.pushExponent c) else none

/-- A number may end here. -/
def complete (n : Numeral) : Bool :=
  match n.phase with
  | .zero | .whole | .fraction | .exponent => true
  | .sign | .point | .mark | .markSign => false

/-- The power of ten that the significand is scaled by. -/
def scale (n : Numeral) : Int :=
  if n.shrinking then n.shift - (n.exponent : Int) else n.shift + (n.exponent : Int)

/-- The number is beyond the range of a double. -/
def overflows (n : Numeral) : Bool :=
  Magnitude.overflows n.significand n.scale

/-- The value of a number of digits alone, without its sign. -/
def whole (n : Numeral) : Nat :=
  ofDigits (n.spelling.reverse.filter Char.isDigit)

/-- The token of a number that ends here. -/
def token (n : Numeral) : Token :=
  if !n.complete then .broken
  else if n.overflows then .unreadable
  else
    match n.phase with
    | .zero | .whole =>
      if n.negative then
        if n.whole = 0 then .real (String.ofList n.spelling.reverse) else .int (-(n.whole : Int))
      else .int n.whole
    | _ => .real (String.ofList n.spelling.reverse)

end Numeral

/-! ## The machine -/

/-- What the machine is in the middle of. -/
inductive Mode where
  | between
  /-- A word that stands for `token`, with the letters still to come. -/
  | word (rest : List Char) (token : Token)
  | number (n : Numeral)
  /-- Inside a string, with the pieces so far, last first. -/
  | text (done : List Piece)
  | escape (done : List Piece)
  /-- Inside a `\u` escape, with the digits still to come. -/
  | hex (done : List Piece) (left : Nat) (value : Nat)
  | stopped
  deriving DecidableEq, Repr

/-- Blanks between tokens. -/
def isSpace (c : Char) : Bool :=
  c == ' ' || c == '\t' || c == '\n' || c == '\r'

/-- The stream ends at a character that fits nowhere. -/
def Mode.stop : List Token × Mode :=
  ([.broken], .stopped)

/-- A character that starts a token or is one. -/
def Mode.start (c : Char) : List Token × Mode :=
  if isSpace c then ([], .between)
  else if c = '[' then ([.openArray], .between)
  else if c = ']' then ([.closeArray], .between)
  else if c = '{' then ([.openObject], .between)
  else if c = '}' then ([.closeObject], .between)
  else if c = ',' then ([.comma], .between)
  else if c = ':' then ([.colon], .between)
  else if c = '"' then ([], .text [])
  else if c = 't' then ([], .word ['r', 'u', 'e'] (.bool true))
  else if c = 'f' then ([], .word ['a', 'l', 's', 'e'] (.bool false))
  else if c = 'n' then ([], .word ['u', 'l', 'l'] .null)
  else
    match Numeral.start c with
    | some n => ([], .number n)
    | none => Mode.stop

/-- One character: the tokens it completes and what follows. -/
def Mode.step (mode : Mode) (c : Char) : List Token × Mode :=
  match mode with
  | .between => Mode.start c
  | .word [] t => let (ts, next) := Mode.start c; (t :: ts, next)
  | .word [d] t => if c = d then ([t], .between) else Mode.stop
  | .word (d :: rest) t => if c = d then ([], .word rest t) else Mode.stop
  | .number n =>
    match n.push c with
    | some n => ([], .number n)
    | none =>
      if !n.complete || n.phase == .zero && c.isDigit then Mode.stop
      else let (ts, next) := Mode.start c; (n.token :: ts, next)
  | .text done =>
    if c = '"' then ([.ofPieces done.reverse], .between)
    else if c = '\\' then ([], .escape done)
    else if c.toNat < 0x20 then Mode.stop
    else ([], .text (.char c :: done))
  | .escape done =>
    if c = 'u' then ([], .hex done 4 0)
    else
      match unescape c with
      | some d => ([], .text (.char d :: done))
      | none => Mode.stop
  | .hex done left value =>
    match hexValue c with
    | none => Mode.stop
    | some d =>
      if left ≤ 1 then ([], .text (.unit (value * 16 + d) :: done))
      else ([], .hex done (left - 1) (value * 16 + d))
  | .stopped => ([], .stopped)

/-- The tokens that the end of the text completes. -/
def Mode.finish : Mode → List Token
  | .between | .stopped => []
  | .word [] t => [t]
  | .number n => [n.token]
  | .word _ _ | .text _ | .escape _ | .hex _ _ _ => [.broken]

/-- The tokens of the text that follows `mode`. -/
def Mode.tokens : Mode → List Char → List Token
  | mode, [] => mode.finish
  | mode, c :: cs => let (ts, next) := mode.step c; ts ++ next.tokens cs

/-- The tokens of a JSON text. -/
def Token.ofText (cs : List Char) : List Token :=
  Mode.between.tokens cs

end Couponry.Json
