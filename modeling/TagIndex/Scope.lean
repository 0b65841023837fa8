import TagIndex.Bytes

namespace TagIndex.Scope

def dot : UInt8 := 46

/-- The scope that the members of the container `name` see, when the container itself stands in
`scope`. At top level the scope is empty and no dot is written. -/
def enter (scope name : Bytes) : Bytes :=
  if scope = [] then name else scope ++ dot :: name

@[simp] theorem enter_nil (name : Bytes) : enter [] name = name := rfl

theorem enter_eq_nil_iff (scope name : Bytes) : enter scope name = [] ↔ scope = [] ∧ name = [] := by
  unfold enter
  split <;> simp_all

end TagIndex.Scope
