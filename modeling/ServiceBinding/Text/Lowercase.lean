import ServiceBinding.Text.CaseContext
import ServiceBinding.Text.CaseRuns

/-!
Lower-casing of whole texts. Two letters need more than the map of single characters: a capital
sigma at the end of a word becomes a final sigma, and a dotted capital I keeps its dot as a
combining mark.
-/
namespace ServiceBinding.Text

/-- The lower case of the rest of a text, given the characters before it, last one first. -/
def lowerFrom (before : List Char) : List Char → List Char
  | [] => []
  | c :: rest =>
    let lowered :=
      if c == '\u03a3' then
        if meetsCased before && !meetsCased rest then ['\u03c2'] else ['\u03c3']
      else if c == '\u0130' then ['i', '\u0307']
      else [lowerChar c]
    lowered ++ lowerFrom (c :: before) rest

def lowercase (s : String) : String := String.ofList (lowerFrom [] s.toList)

end ServiceBinding.Text
