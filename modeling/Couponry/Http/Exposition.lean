import Couponry.Journal

/-!
# Exposition of the counters

The text form in which counters are scraped: one line each, with the count after a blank.
-/

namespace Couponry.Http.Exposition

open Couponry.Text

/-- The content type of the text. -/
def contentType : String := "text/plain; version=0.0.4; charset=utf-8"

/-- The line of a counter. -/
def line (c : Counter × Nat) : List Char :=
  c.1.series.toList ++ ' ' :: digits c.2 ++ ['\n']

/-- The text of all counters. -/
def render (counters : List (Counter × Nat)) : String :=
  String.ofList (counters.flatMap line)

/-- The name of a series and its count, in one line. The count has no blanks. -/
def readLine (line : List Char) : List Char × List Char :=
  let count := (line.reverse.takeWhile (· ≠ ' ')).reverse
  (line.take (line.length - count.length - 1), count)

/-- The lines of a text, without those that are empty. -/
def read (text : String) : List (String × String) :=
  ((text.toList.splitBy fun c _ => c ≠ '\n').map fun line => line.filter (· ≠ '\n')).filterMap
    fun line =>
      if line = [] then none
      else some (String.ofList (readLine line).1, String.ofList (readLine line).2)

end Couponry.Http.Exposition
