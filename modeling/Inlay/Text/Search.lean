/-!
# Finding one text in another

All searches go from left to right and never let two occurrences overlap.
-/

namespace Inlay.Text

/-- Whether `sought` occurs in a text. -/
def occurs (sought : List Char) : List Char → Bool
  | [] => sought.isEmpty
  | c :: rest => sought.isPrefixOf (c :: rest) || occurs sought rest

/-- The pieces between the occurrences of a separator that is not empty;
`piece` holds the characters of the current piece, last first, and `skip`
counts those of an occurrence that are still to be passed over. -/
def piecesFrom (separator : List Char) (piece : List Char) : Nat → List Char → List (List Char)
  | _, [] => [piece.reverse]
  | skip + 1, _ :: rest => piecesFrom separator piece skip rest
  | 0, c :: rest =>
    if separator.isPrefixOf (c :: rest) then
      piece.reverse :: piecesFrom separator [] (separator.length - 1) rest
    else piecesFrom separator (c :: piece) 0 rest

/-- The pieces of a text between the occurrences of a separator. -/
def pieces (separator text : List Char) : List (List Char) := piecesFrom separator [] 0 text

/-- The text with every occurrence of `old` replaced; an empty `old` occurs
before every character and at the end. -/
def replaceAll (old new text : List Char) : List Char :=
  if old.isEmpty then new ++ text.flatMap fun c => c :: new
  else new.intercalate (pieces old text)

end Inlay.Text
