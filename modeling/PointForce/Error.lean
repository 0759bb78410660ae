import PointForce.Config.Validity
import PointForce.Document.Message
import PointForce.Event
import PointForce.Shape
import PointForce.Text.Encoding

namespace PointForce

inductive ErrorKind
  | missingBody
  | invalidConfig
  | parse
  | shape
  | nullPointer
  deriving DecidableEq, Repr

def ErrorKind.describe (detail : String) : ErrorKind → String
  | missingBody   => s!"there is no mechanical state associated with actuator `{detail}`"
  | invalidConfig => s!"invalid configuration: {detail}"
  | parse         => s!"configuration parse error: {detail}"
  | shape         => s!"shape error: {detail}"
  | nullPointer   => s!"null pointer passed for `{detail}`"

def Event.message : Event → String
  | missingBody name =>
    ErrorKind.missingBody.describe name ++
      "; the object is deactivated. Add a mechanical state to the scene to fix this"
  | shortMultipliers => "short multiplier slice; keeping previous force on missing axes"
  | crossedBounds    =>
    "actuator bounds are crossed; the solver will see an infeasible box"
  | leftInactive _   => "actuator left inactive"

namespace ConfigFault

-- A number in a sentence is written in places, however long that makes it. A tie goes up.
def numberStyle : NumberStyle where
  inPlaces _ := true
  keepPoint  := false
  plusSign   := false
  tie        := .up

example : numberStyle.write 2                  = "2"                      := by decide +kernel
example : numberStyle.write (-0.0)             = "-0"                     := by decide +kernel
example : numberStyle.write 1e21               = "1000000000000000000000" := by decide +kernel
example : numberStyle.write 1.0000076293945312 = "1.0000076293945313"     := by decide +kernel

-- A number among others keeps a digit after the point, and is written with an exponent below
-- 0.0001 and from 10 to the 16th on.
def componentStyle : NumberStyle where
  inPlaces e := -4 ≤ e ∧ e < 16
  keepPoint  := true
  plusSign   := false
  tie        := .up

example : componentStyle.write 2      = "2.0"    := by decide +kernel
example : componentStyle.write 1.5e-7 = "1.5e-7" := by decide +kernel
example : componentStyle.write 1e16   = "1e16"   := by decide +kernel

def list (v : Vec3 Float) : String :=
  "[" ++ ", ".intercalate (v.toList.map componentStyle.write) ++ "]"

def message : ConfigFault Float → String
  | directionNotFinite d => s!"direction must be finite, got {list d}"
  | notFinite p v        => s!"{p.key} must be finite, got {numberStyle.write v}"
  | crossedForces lo hi  =>
    s!"minForce ({numberStyle.write lo}) is greater than maxForce ({numberStyle.write hi})"
  | negative p v         => s!"{p.key} must be non-negative, got {numberStyle.write v}"
  | unusableScale v      =>
    s!"{Parameter.visuScale.key} must be a non-negative number, got {numberStyle.write v}"

end ConfigFault

def Text.EncodingFault.message : Text.EncodingFault → String
  | invalid n i  => s!"invalid utf-8 sequence of {n} bytes from index {i}"
  | incomplete i => s!"incomplete utf-8 byte sequence from index {i}"

def ShapeFault.message : ShapeFault → String
  | columns n             => s!"positions must have 3 columns, got {n}"
  | flatLength n          => s!"flat coordinate buffer length {n} is not a multiple of 3"
  | solutionLength n l d  => s!"expected {n} multipliers and deltas, got {l} and {d}"
  | rowRoom capacity n    => s!"row buffer holds {capacity} entries, {n} needed"
  | forceRoom capacity n  => s!"force buffer holds {capacity} entries, {n} needed"

inductive Argument
  | handle
  | name
  | config
  | positions
  | rowCounters
  | rowArrays
  | bounds
  | multipliers
  | deltas
  | force
  deriving DecidableEq, Repr

def Argument.describe : Argument → String
  | handle      => "handle"
  | name        => "name"
  | config      => "config_json"
  | positions   => "positions"
  | rowCounters => "out_nnz / out_row_count"
  | rowArrays   => "out_rows / out_cols / out_vals"
  | bounds      => "bounds output"
  | multipliers => "lambda"
  | deltas      => "delta"
  | force       => "out_force"

inductive Error
  | invalidConfig (fault : ConfigFault Float)
  | configEncoding (fault : Text.EncodingFault)
  | parse (located : Document.Located)
  | shape (fault : ShapeFault)
  | nullPointer (argument : Argument)

namespace Error

def kind : Error → ErrorKind
  | invalidConfig _  => .invalidConfig
  | configEncoding _ => .invalidConfig
  | parse _          => .parse
  | shape _          => .shape
  | nullPointer _    => .nullPointer

def detail : Error → String
  | invalidConfig f  => f.message
  | configEncoding f => s!"configuration is not UTF-8: {f.message}"
  | parse l          => l.fault.message
  | shape f          => f.message
  | nullPointer a    => a.describe

def summary (e : Error) : String :=
  e.kind.describe e.detail

def message : Error → String
  | parse l => (parse l).summary ++ l.place.message
  | e       => e.summary

end Error

end PointForce
