import Stencil.Fault

set_option autoImplicit false

/-!
The family of issues that a fault belongs to, if it amounts to an issue.
-/

namespace Stencil

def Fault.family? (fault : Fault) : Option IssueFamily := fault.issue?.map (·.family)

@[simp] theorem Fault.family?_template (fault : TemplateFault) :
    (Fault.template fault).family? = some .template := by
  cases fault <;> rfl

end Stencil
