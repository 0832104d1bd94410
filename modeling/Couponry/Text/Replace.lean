/-!
# Replacing

A word in a text replaced by another, from left to right and wherever it stands.
-/

namespace Couponry.Text

/-- The text with `word` replaced by `other`. An empty word stands nowhere. -/
def replace (word other : List Char) (cs : List Char) : List Char :=
  match cs with
  | [] => []
  | c :: rest =>
    if word.isPrefixOf (c :: rest) ∧ word ≠ [] then
      other ++ replace word other (rest.drop (word.length - 1))
    else c :: replace word other rest
termination_by cs.length
decreasing_by all_goals simp only [List.length_drop, List.length_cons]; omega

/-- The text with each word replaced, one word after another. -/
def replaceAll (words : List (List Char × List Char)) (s : String) : String :=
  String.ofList (words.foldl (fun cs word => replace word.1 word.2 cs) s.toList)

example : replaceAll [("ab".toList, "b".toList)] "aabab" = "abb" := by cbv

end Couponry.Text
