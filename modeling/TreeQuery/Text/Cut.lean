import TreeQuery.Text.Quoted

namespace TreeQuery.Text

def ellipsis : Char := '…'

/-- Keeps as many characters as the limit leaves room for beside an ellipsis. A quoted text keeps
a closing quote too, in front of the ellipsis. Limits under three are no limits. -/
def cutChars (limit : Int) (cs : List Char) : List Char :=
  if 2 < limit ∧ limit < cs.length then
    match cs with
    | [] => []
    | c :: _ =>
      if c = singleQuote || c = doubleQuote then cs.take (limit.toNat - 2) ++ [c, ellipsis]
      else cs.take (limit.toNat - 1) ++ [ellipsis]
  else cs

theorem length_cutChars_le {limit : Int} (h : 2 < limit) (cs : List Char) :
    ((cutChars limit cs).length : Int) ≤ limit := by
  unfold cutChars
  split
  · split
    · simp only [List.length_nil]
      omega
    · split <;> simp only [List.length_append, List.length_take, List.length_cons,
        List.length_nil] <;> omega
  · omega

def cut (limit : Int) (s : String) : String := String.ofList (cutChars limit s.toList)

end TreeQuery.Text
