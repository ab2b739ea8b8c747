/-!
# The order of texts

Texts are ordered by their characters from the left, and characters by their numbers; a text
comes before every longer one that starts with it.

* `Text.precedes`: whether a text stands before another one or is equal to it.
-/

namespace FieldSchema

namespace Text

/-- Whether characters stand before others, or are the same. -/
def charsPrecede : List Char → List Char → Bool
  | [], _ => true
  | _ :: _, [] => false
  | a :: as, b :: bs =>
    if a.toNat < b.toNat then true
    else if b.toNat < a.toNat then false
    else charsPrecede as bs

/-- Whether a text stands before another one, or is equal to it. -/
def precedes (a b : String) : Bool := charsPrecede a.toList b.toList

end Text

end FieldSchema
