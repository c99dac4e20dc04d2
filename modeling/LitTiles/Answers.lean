/-!
# Answers

What a driver, a device or a window system answers is not known to a program. A question of one kind
is asked again and again, and every time the answer may be another one, whatever the reason is. So a
host fixes the answers to all questions of the kind beforehand, and the state that the program works
on counts how often the question was asked. A statement about all hosts then covers every order in
which questions are granted and refused.
-/

namespace LitTiles

/-- The answers to a question, by the number of times that it was asked before. -/
def Answers (α : Type) : Type := Nat → α

namespace Answers

variable {α : Type}

/-- The same answer every time. -/
def always (a : α) : Answers α := fun _ => a

instance : Coe α (Answers α) := ⟨always⟩

instance [Inhabited α] : Inhabited (Answers α) := ⟨always default⟩

end Answers

end LitTiles
