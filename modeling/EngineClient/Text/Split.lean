/-! Lists taken apart at a separator. -/

namespace EngineClient.Text

/-- What stands before and behind the first `separator`. -/
def splitFirst (separator : Char) : List Char → Option (List Char × List Char)
  | [] => none
  | char :: rest =>
    if char = separator then some ([], rest)
    else match splitFirst separator rest with
      | some (before, behind) => some (char :: before, behind)
      | none => none

/-- What stands before and behind the last `separator`. -/
def splitLast (separator : Char) : List Char → Option (List Char × List Char)
  | [] => none
  | char :: rest =>
    match splitLast separator rest with
    | some (before, behind) => some (char :: before, behind)
    | none => if char = separator then some ([], rest) else none

end EngineClient.Text
