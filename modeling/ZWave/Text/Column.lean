/-!
# Columns of text

Reports line up by padding a field with spaces to the width of its column. A field that is wider
than its column is kept whole.
-/

namespace ZWave.Column

/-- The spaces that bring `text` to a width. -/
def padding (width : Nat) (text : String) : String :=
  String.ofList (List.replicate (width - text.length) ' ')

/-- The text at the left of its column. -/
def left (width : Nat) (text : String) : String := text ++ padding width text

/-- The text at the right of its column. -/
def right (width : Nat) (text : String) : String := padding width text ++ text

end ZWave.Column
