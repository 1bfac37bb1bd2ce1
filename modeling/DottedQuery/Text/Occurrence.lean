/-
# DottedQuery.Text.Occurrence -- one sequence inside another
-/

namespace DottedQuery.Text

/-- Whether one sequence occurs in another without gaps. -/
def occursIn {α : Type} [BEq α] (part : List α) : List α → Bool
  | [] => part.isEmpty
  | c :: rest => part.isPrefixOf (c :: rest) || occursIn part rest

end DottedQuery.Text
