import PointForce.Assembly
import PointForce.Host.Basic
import PointForce.Matrix.Product
import PointForce.Proofs.Actuator.Operations
import PointForce.Proofs.Actuator.Run
import PointForce.Proofs.Assembly.Layout
import PointForce.Proofs.Assembly.Invariant
import PointForce.Proofs.Assembly.Exchange
import PointForce.Proofs.Assembly.Alone
import PointForce.Proofs.Exact
import PointForce.Proofs.Limits.Band
import PointForce.Proofs.Limits.Box
import PointForce.Proofs.Limits.Iteration
import PointForce.Proofs.Actuator.Forgetting
import PointForce.Proofs.Actuator.Uncrossed
import PointForce.Proofs.Actuator.Resolution
import PointForce.Proofs.Actuator.LastWrites
import PointForce.Proofs.Actuator.Activation
import PointForce.Proofs.Assembly.PointForces
import PointForce.Proofs.Assembly.Single
import PointForce.Proofs.Document.Accepted
import PointForce.Proofs.Host.Calls
import PointForce.Proofs.Host.Rounds
import PointForce.Proofs.Host.Frame
import PointForce.Proofs.Host.LastError
import PointForce.Proofs.Host.Safety
import PointForce.Proofs.Document.Spelling
import PointForce.Proofs.Document.Written
import PointForce.Proofs.Limits.Intersection
import PointForce.Proofs.Document.Literal
import PointForce.Proofs.Document.Described
import PointForce.Proofs.Document.Layout
import PointForce.Proofs.Document.Continued
import PointForce.Proofs.Document.Prefix
import PointForce.Proofs.Matrix.Exports
import PointForce.Proofs.Actuator.Direction
import PointForce.Proofs.Matrix.Writes
import PointForce.Proofs.Actuator.OwnRows
import PointForce.Proofs.Actuator.StalePoints
import PointForce.Proofs.Host.Retry
import PointForce.Proofs.Limits.Refresh
import PointForce.Proofs.Assembly.Initialisation
import PointForce.Proofs.Drawing.Bracketed
import PointForce.Proofs.Drawing.Pending
import PointForce.Proofs.Drawing.Renderable
import PointForce.Proofs.PointCloud
