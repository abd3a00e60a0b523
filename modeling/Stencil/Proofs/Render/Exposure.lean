import Stencil.Proofs.Render.Keeping
import Stencil.Proofs.Render.Trace
import Stencil.Proofs.Scope.Resemblance
import Stencil.Proofs.Value.Exposure

set_option autoImplicit false

/-!
Rendering sees only the exposed part of objects. Where nobody listens and no provider formats,
sources that are the same except for what their objects hide are rendered alike: with the same
chunks, the same records and the same end.
-/

namespace Stencil

theorem Lookup.standard_matches {behaviour : Behaviour} {property : Session → Prop}
    {alike : Value → Value → Prop} {scope scope' : Scope} {path : String}
    (unheard : ∀ session, property session →
      session.Unheard scope.family ∧ session.Unheard scope'.family)
    (agree : Agree (Reach.Alike alike) (scope.find path) (scope'.find path)) :
    Run.Matches (Run.Same property) (Option.Rel alike) (standard behaviour scope path)
      (standard behaviour scope' path) := by
  rintro session _ ⟨rfl, holds⟩
  have ⟨silent, silent'⟩ := unheard _ holds
  rw [execute_standard_of_unheard silent, execute_standard_of_unheard silent']
  exact ⟨(agree.map fun _ _ => Reach.Alike.value?).mapError _, rfl, holds⟩

namespace Render

variable {kit : Kit} {behaviour : Behaviour} {escaper : Escaper}

/-- Two accounts in a set, of which one says that it comes before the other or after it. -/
def rankedAccounts (before : Bool) : Value :=
  .ofFields [("accounts", .set false
    [.object ⟨1, "Account", "first", none, none, false, [],
        [(Value.identityKey 2, .ok before)], [(Value.identityKey 2, .ok !before)]⟩
        [("owner", .text "Ada")] .closed,
      .object ⟨2, "Account", "second", none, none, false, [], [], []⟩
        [("owner", .text "Bea")] .closed])]

-- Without the agreement on comparisons, the places of two accounts in a set tell how they rank.
example :
    let shown := fun before =>
      (write (setting .labelling (fun _ _ => .done) ⟨.standard, .absent, .none⟩)
        (.block ⟨"accounts", by decide⟩ (.bool false)
          [.placeholder ⟨"owner", by decide⟩ (.bool false)])
        (.root 0 .standard (rankedAccounts before))).execute .initial
    chunks (shown true).2.trace = ["Ada", "Bea"] ∧
      chunks (shown false).2.trace = ["Bea", "Ada"] := by
  decide +kernel

end Render
end Stencil
