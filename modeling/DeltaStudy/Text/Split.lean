/-!
# Pieces of a text

Splitting a list at every occurrence of a separator, and the letter case of the
26 letters of ASCII.
-/

namespace DeltaStudy.Text

/-- The pieces between the elements that separate, in order. There is always
one more piece than there are separators. -/
def splitAt {α : Type} (separates : α → Bool) : List α → List (List α)
  | [] => [[]]
  | head :: tail =>
    if separates head then
      [] :: splitAt separates tail
    else
      match splitAt separates tail with
      | [] => [[head]]
      | piece :: pieces => (head :: piece) :: pieces

/-- A string with its ASCII letters in lower case and everything else kept. -/
def lowercase (text : String) : String :=
  String.ofList (text.toList.map Char.toLower)

/-- Whether two strings are equal up to the case of ASCII letters. -/
def equalIgnoringCase (left right : String) : Bool :=
  lowercase left == lowercase right

/-- The strings with a separator between each two. -/
def joined (separator : String) (texts : List String) : String :=
  separator.intercalate texts

/-- A text that fills a width from the right, with blanks in front. -/
def alignRight (width : Nat) (text : String) : String :=
  String.ofList (List.replicate (width - text.length) ' ') ++ text

end DeltaStudy.Text
