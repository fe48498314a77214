import CodeFormatting.Regex.Meaning
import CodeFormatting.Regex.Parser
namespace CodeFormatting.Regex

/-! A pattern describes texts. It is written in the way of programs that search: most
characters stand for themselves, and signs tell of choices, repetitions, sets and places. -/

def compile (pattern : String) : Except Error Pattern :=
  match meaning with
  | .error found => .error (.fault pattern found)
  | .ok (understood, _) =>
    if Pattern.sizeLimit < understood.size then .error (.tooLarge Pattern.sizeLimit)
    else if understood.asksForWords then .error .notAvailable
    else .ok understood
where
  meaning : Except Fault (Pattern × Mode) := do
    (← Expression.parse pattern).meaning .standard

end CodeFormatting.Regex
