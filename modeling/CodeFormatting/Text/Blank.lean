namespace CodeFormatting.Text

/-! A character is blank when it has the Unicode property `White_Space`.
Trimming removes the blank characters at both ends of a text and keeps every
other one, so that a text is blank exactly when trimming leaves nothing. -/

def isBlank (character : Char) : Bool :=
  let code := character.toNat
  (0x0009 ≤ code && code ≤ 0x000D) || code == 0x0020 || code == 0x0085 || code == 0x00A0 ||
    code == 0x1680 || (0x2000 ≤ code && code ≤ 0x200A) || code == 0x2028 || code == 0x2029 ||
    code == 0x202F || code == 0x205F || code == 0x3000

def trimmedStart (characters : List Char) : List Char :=
  characters.dropWhile isBlank

def trimmedEnd (characters : List Char) : List Char :=
  (trimmedStart characters.reverse).reverse

def trimmed (characters : List Char) : List Char :=
  trimmedEnd (trimmedStart characters)

def trim (text : String) : String :=
  String.ofList (trimmed text.toList)

/-- Whether a text has blank characters only; the empty text is blank. -/
def isBlankText (text : String) : Bool :=
  text.toList.all isBlank

@[simp] theorem toList_trim (text : String) :
    (trim text).toList = trimmed text.toList := by
  simp [trim]

theorem trimmedStart_eq_nil_iff (characters : List Char) :
    trimmedStart characters = [] ↔ characters.all isBlank := by
  induction characters with
  | nil => simp [trimmedStart]
  | cons head tail induction =>
    by_cases blank : isBlank head <;>
      simp_all [trimmedStart]

theorem isBlank_eq_false_of_trimmedStart {characters : List Char} {head : Char}
    {tail : List Char} (starts : trimmedStart characters = head :: tail) :
    isBlank head = false := by
  have kept := List.head?_dropWhile_not isBlank characters
  rw [trimmedStart] at starts
  simpa [starts] using kept

theorem trimmed_eq_nil_iff (characters : List Char) :
    trimmed characters = [] ↔ characters.all isBlank := by
  rw [trimmed, trimmedEnd, List.reverse_eq_nil_iff, trimmedStart_eq_nil_iff,
    List.all_reverse]
  constructor
  · intro blank
    rw [← trimmedStart_eq_nil_iff]
    cases rest : trimmedStart characters with
    | nil => rfl
    | cons head tail =>
      have visible := isBlank_eq_false_of_trimmedStart rest
      simp_all
  · intro blank
    rw [(trimmedStart_eq_nil_iff characters).2 blank]
    rfl

theorem isBlankText_iff (text : String) :
    isBlankText text ↔ trim text = "" := by
  rw [isBlankText, ← trimmed_eq_nil_iff]
  constructor
  · intro blank
    simp [trim, blank]
  · intro blank
    simpa using congrArg String.toList blank

end CodeFormatting.Text
