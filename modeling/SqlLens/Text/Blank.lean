import SqlLens.Text.Range

namespace SqlLens.Text

def isBlank (c : Char) : Bool :=
  c == ' ' || (9 ≤ c.toNat && c.toNat ≤ 13) || inRanges [
  (133, 133), (160, 160), (5760, 5760), (8192, 8202), (8232, 8233), (8239, 8239), (8287, 8287),
  (12288, 12288)] c

-- Without the blanks at both ends.
def trim (s : String) : String :=
  .ofList (((s.toList.dropWhile isBlank).reverse.dropWhile isBlank).reverse)

end SqlLens.Text
