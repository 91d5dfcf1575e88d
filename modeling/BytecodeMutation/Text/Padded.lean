/-! Texts filled up to a width. -/

namespace BytecodeMutation.Text

/-- The text with blanks at its end, up to so many characters. -/
def padded (width : Nat) (text : String) : String :=
  String.ofList (text.toList ++ List.replicate (width - text.length) ' ')

end BytecodeMutation.Text
