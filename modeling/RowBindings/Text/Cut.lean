/-!
# Cutting text

A text cut in two at a mark: at the first place where it stands, or at the last.
-/

namespace RowBindings.Text

/-- What stands before and after the first place of a mark, if there is one. -/
def cutAtFirst? (mark : List Char) : List Char → Option (List Char × List Char)
  | [] => if mark.isEmpty then some ([], []) else none
  | c :: rest =>
    if mark.isPrefixOf (c :: rest) then some ([], (c :: rest).drop mark.length)
    else (cutAtFirst? mark rest).map fun (before, after) => (c :: before, after)

/-- What stands before and after the last place of a character, if there is one. -/
def cutAtLast? (mark : Char) : List Char → Option (List Char × List Char)
  | [] => none
  | c :: rest =>
    match cutAtLast? mark rest with
    | some (before, after) => some (c :: before, after)
    | none => if c = mark then some ([], rest) else none

end RowBindings.Text
