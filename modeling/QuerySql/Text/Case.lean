import QuerySql.Text.CaseTable

/-!
Letter case. `lower` is the full lower-casing of text, in which a capital sigma at the end of a
word becomes the final form; `equalsIgnoringCase` compares the twenty-six basic letters only.
-/

namespace QuerySql.Text

def lowerChar (char : Char) : List Char :=
  if char.toNat < 0x80 then [char.toLower]
  else if char.toNat = 0x130 then ['i', Char.ofNat 0x307]
  else
    match lowerRanges.find? (·.contains char.toNat) with
    | some range => [Char.ofNat (range.apply char.toNat)]
    | none => [char]

def startsCased : List Char → Bool
  | [] => false
  | char :: rest =>
      if CharIntervals.contains caseIgnorable char.toNat then startsCased rest
      else CharIntervals.contains cased char.toNat

def capitalSigma : Char := Char.ofNat 0x3A3

def smallSigma : Char := Char.ofNat 0x3C3

def finalSigma : Char := Char.ofNat 0x3C2

/-- Lower-cases a text; `before` holds the characters already passed, nearest first. -/
def lowerFrom (before : List Char) : List Char → List Char
  | [] => []
  | char :: rest =>
      let lowered :=
        if char = capitalSigma then
          [if startsCased before && !startsCased rest then finalSigma else smallSigma]
        else lowerChar char
      lowered ++ lowerFrom (char :: before) rest

def lower (text : String) : String :=
  String.ofList (lowerFrom [] text.toList)

def equalsIgnoringCase (left right : String) : Bool :=
  left.toList.map Char.toLower == right.toList.map Char.toLower

end QuerySql.Text
