namespace CodeFormatting.Text

/-! A text splits at every occurrence of a separator, so that there is always
one piece more than there are separators and joining the pieces with the
separator gives the text back. -/

def pieces (separator : Char) (text : String) : List String :=
  (text.toList.splitOn separator).map String.ofList

theorem intercalate_pieces (separator : Char) (text : String) :
    (String.ofList [separator]).intercalate (pieces separator text) = text := by
  rw [← String.toList_inj, String.toList_intercalate, pieces, List.map_map]
  simp [Function.comp_def, List.intercalate_splitOn]

def contains (character : Char) (text : String) : Bool :=
  text.toList.contains character

/-- A line without the carriage return that belongs to its end. -/
def withoutReturn (line : String) : String :=
  match line.toList.getLast? with
  | some '\r' => String.ofList line.toList.dropLast
  | _ => line

/-- The lines of a text. What ends a line is a line feed or a carriage return with one. -/
def lines (text : String) : List String :=
  let parts := pieces '\n' text
  parts.dropLast.map withoutReturn ++ (parts.getLast?.filter (· ≠ "")).toList

/-- What follows a front, where a text has that front. -/
def after? (front text : String) : Option String :=
  if front.toList.isPrefixOf text.toList then
    some (String.ofList (text.toList.drop front.toList.length))
  else none

/-- The text before the first character that ends it. -/
def before (ends : Char → Bool) (text : String) : String :=
  String.ofList (text.toList.takeWhile fun character => !ends character)

end CodeFormatting.Text
