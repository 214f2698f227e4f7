import Mathlib.Tactic.Lemma

/-!
# Regular expressions that a client supplies

`utils/safe_regex.py`: a pattern in which one unbounded quantifier is nested in another is refused
before it is run.

* `ReNode` is what the parser of the `re` module makes of a pattern, by what `check_regex` looks at.
* `nestsUnbounded` is the shape that is refused.
-/

namespace Mockdr

/-- A node of a parsed pattern. -/
inductive ReNode where
  /-- a node that matches exactly one character (`_ONE_CHAR`) -/
  | oneChar
  /-- a quantifier (`_REPEATS`); no upper bound is `MAXREPEAT` -/
  | repeated (upper : Option Nat) (body : List ReNode)
  /-- a group (`_SUBPATTERN`) -/
  | group (body : List ReNode)
  /-- alternatives (`_BRANCH`) -/
  | branch (alternatives : List (List ReNode))
  /-- any other node -/
  | other

namespace ReNode

mutual

/-- `_has_unbounded_repeat`, at one node -/
def unbounded : ReNode → Bool
  | .repeated none _ => true
  | .repeated (some _) body => hasUnboundedRepeat body
  | .group body => hasUnboundedRepeat body
  | .branch alternatives => anyUnbounded alternatives
  | .oneChar | .other => false

/-- `_has_unbounded_repeat` -/
def hasUnboundedRepeat : List ReNode → Bool
  | [] => false
  | node :: rest => node.unbounded || hasUnboundedRepeat rest

/-- `_has_unbounded_repeat` of some alternative -/
def anyUnbounded : List (List ReNode) → Bool
  | [] => false
  | body :: rest => hasUnboundedRepeat body || anyUnbounded rest

end

mutual

/-- `_has_required_boundary`, at one node -/
def boundary : ReNode → Bool
  | .oneChar => true
  | .group body => hasRequiredBoundary body
  | .repeated _ _ | .branch _ | .other => false

/-- `_has_required_boundary` -/
def hasRequiredBoundary : List ReNode → Bool
  | [] => false
  | node :: rest => node.boundary || hasRequiredBoundary rest

end

mutual

/-- `_nests_unbounded`, at one node -/
def nests : ReNode → Bool
  | .repeated upper body =>
    (upper.isNone && hasUnboundedRepeat body && !hasRequiredBoundary body) || nestsUnbounded body
  | .group body => nestsUnbounded body
  | .branch alternatives => anyNests alternatives
  | .oneChar | .other => false

/-- `_nests_unbounded` -/
def nestsUnbounded : List ReNode → Bool
  | [] => false
  | node :: rest => node.nests || nestsUnbounded rest

/-- `_nests_unbounded` of some alternative -/
def anyNests : List (List ReNode) → Bool
  | [] => false
  | body :: rest => nestsUnbounded body || anyNests rest

end

end ReNode

end Mockdr
