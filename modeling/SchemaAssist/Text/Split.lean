/-
  Cutting a text at a mark.
-/
namespace SchemaAssist.Text

/-- Cuts a text at each occurrence of a mark, which belongs to no part. -/
def splitAt (mark : Char) : List Char → List (List Char)
  | [] => [[]]
  | c :: rest =>
    if c = mark then [] :: splitAt mark rest
    else match splitAt mark rest with
      | part :: parts => (c :: part) :: parts
      | [] => [[c]]

end SchemaAssist.Text
