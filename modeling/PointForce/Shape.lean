namespace PointForce

inductive ShapeFault
  | columns (width : Nat)
  | flatLength (length : Nat)
  | solutionLength (rows multipliers deltas : Nat)
  | rowRoom (capacity needed : Nat)
  | forceRoom (capacity needed : Nat)
  deriving DecidableEq, Repr

end PointForce
