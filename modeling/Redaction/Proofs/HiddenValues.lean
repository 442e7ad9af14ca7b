import Redaction.Proofs.Similarity.Construction

/-!
# Hidden values never show

The value of a segment influences an output only where a policy reveals it. Composites that differ
in the values of segments alone have the same default texts, inspections, serializations and log
entries, building them logs the same events, and under any options that treat their segments alike
they have the same renderings.
-/

namespace Redaction

open Composite (SameWhenHidden SameUnder)

/-- Whatever the values are: similar composites show the same as long as nothing is revealed;
composites that a policy treats alike show the same under any options with this policy, also where
the policy looks at values; and similar constructions log the same, step by step, while they build
similar segments and composites. -/
theorem hidden_values_never_show :
    (∀ c d : Composite, c.Similar d → SameWhenHidden c d) ∧
    (∀ (o : Options) (c d : Composite), c.AlikeUnder o.policy d → SameUnder o c d) ∧
    (∀ (r r' : Script.Registers) (steps steps' : List Script.Step), r.Similar r' →
      List.Forall₂ Script.Step.Similar steps steps' →
      List.Forall₂ (Logged.Paired Script.Answer.Similar)
        (Script.run r steps) (Script.run r' steps')) := by
  refine ⟨?_, ?_, ?_⟩
  · intro c d similar
    exact similar.sameWhenHidden
  · intro o c d alike
    exact alike.sameUnder
  · intro r r' steps steps' registers alike
    exact Script.run_paired alike registers

/-- The line of a login, with a name that no spec can list and a password that is public here. -/
def loginLine (user password : String) : Composite :=
  ⟨[.text "login ", .segment ⟨user, "full name", false⟩, .segment ⟨password, "pw", true⟩]⟩

/-- A construction that shares the segment of the user and appends the password. -/
def loginSteps (user password : String) : List Script.Step :=
  [.segment "user" ⟨user, some "full name", false⟩,
    .build "line" (.textAdd "login " (.part (.segment (.register "user")))),
    .grow "line" (.append password "pw" true)]

/-- A policy that looks at the value reveals the password, which is the same in both logins, and
hides the users, which are not. -/
theorem login_shows_no_user :
    SameWhenHidden (loginLine "alice" "none") (loginLine "bob" "x") ∧
    SameUnder ⟨some "***", .predicate fun s => s.value == "none"⟩
      (loginLine "alice" "none") (loginLine "bob" "none") ∧
    List.Forall₂ (Logged.Paired Script.Answer.Similar)
      (Script.run .empty (loginSteps "alice" "none"))
      (Script.run .empty (loginSteps "bob" "x")) := by
  refine ⟨?_, ?_, ?_⟩
  · exact hidden_values_never_show.1 _ _
      (.cons (.text _) (.cons (.segment ⟨rfl, rfl⟩) (.cons (.segment ⟨rfl, rfl⟩) .nil)))
  · refine hidden_values_never_show.2.1 _ _ _ (.cons (.text _) (.cons ?_ (.cons ?_ .nil)))
    · exact .segment ⟨rfl, rfl⟩ (by decide) (by decide)
    · exact .segment ⟨rfl, rfl⟩ rfl (fun _ => rfl)
  · refine hidden_values_never_show.2.2 _ _ _ _ ⟨fun _ => .none, fun _ => .none⟩ ?_
    refine .cons (.segment "user" ⟨rfl, rfl⟩) (.cons (.build "line" ?_) (.cons ?_ .nil))
    · exact .textAdd "login " (.part (.segment (.register "user")))
    · exact .grow "line" (.append _ _ "pw" true (by decide))

end Redaction
