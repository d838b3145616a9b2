/-!
What an operator is told of an error: its message, then that of its cause, of the cause of that, and
so on.
-/

namespace DualSlot

abbrev Explanation := List String

def Explanation.text (explanation : Explanation) : String :=
  String.intercalate "\n  caused by: " explanation

end DualSlot
