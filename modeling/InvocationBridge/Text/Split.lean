/-!
Cutting text at every occurrence of a separator.
-/

namespace InvocationBridge.Text

/-- The stretches between occurrences of `sep`: one more than there are occurrences. -/
def splitAt (sep : Char) : List Char → List (List Char)
  | [] => [[]]
  | c :: cs =>
    if c = sep then [] :: splitAt sep cs
    else
      match splitAt sep cs with
      | [] => [[c]]
      | word :: words => (c :: word) :: words

end InvocationBridge.Text
