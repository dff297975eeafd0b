import PathTemplate.Options
/-!
# Shapes

How a placeholder is laid out beside its separator. Only an optional placeholder that fills a whole
segment takes its separator along: leaving it out then leaves out the separator too.
-/

namespace PathTemplate

/-- The layout of a placeholder relative to its neighbouring separators. -/
inductive Shape where
  /-- The separator before it is optional together with it. -/
  | foldLeft
  /-- The separator after it is optional together with it. -/
  | foldRight
  /-- It stands alone. -/
  | bare
  deriving DecidableEq, Repr, Inhabited

/-- The layout of a placeholder. `neighbour` says whether a separator stands on the side that the
orientation looks at, and `segment` whether the placeholder is bounded on both sides by separators
or by the ends of the template. -/
def Shape.select (capture : Orientation) (optional neighbour segment : Bool) : Shape :=
  match capture, optional && neighbour && segment with
  | .left, true => foldLeft
  | .right, true => foldRight
  | _, false => bare

theorem Shape.select_eq_bare_iff (capture : Orientation) (optional neighbour segment : Bool) :
    Shape.select capture optional neighbour segment = .bare ↔
      (optional && neighbour && segment) = false := by
  cases capture <;> cases h : optional && neighbour && segment <;> simp [Shape.select, h]

end PathTemplate
