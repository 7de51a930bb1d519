import DocOutline.Text.Basic

/-!
# The order of texts

Texts are ordered like dictionary words by code point, which is also the order of their bytes in
UTF-8.
-/

namespace DocOutline.Text

/-- Whether one text comes before another or is equal to it. -/
def le : Text → Text → Bool
  | [], _ => true
  | _ :: _, [] => false
  | a :: as, b :: bs => a.toNat < b.toNat || (a = b && le as bs)

/-- The texts in order. -/
def sort (ts : List Text) : List Text := ts.mergeSort le

end DocOutline.Text
