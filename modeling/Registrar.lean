import Registrar.Answer.Execution
import Registrar.Collation.Order
import Registrar.Data.DataSet
import Registrar.Json.Conversion
import Registrar.Json.Typed
import Registrar.Numeric.Decimal
import Registrar.Query.Basic
import Registrar.Service.Engine
import Registrar.Service.LogSettings
import Registrar.Service.Sharing
import Registrar.Text.Quoted
import Registrar.Proofs.Numeric.Finite
import Registrar.Proofs.Sequences
import Registrar.Proofs.Preorder
import Registrar.Proofs.StableOrder
import Registrar.Proofs.Numeric.Bits
import Registrar.Proofs.Numeric.Digits
import Registrar.Proofs.Answer.Classes
import Registrar.Proofs.Answer.Partition
import Registrar.Proofs.Answer.Ordered
import Registrar.Proofs.Answer.Completeness
import Registrar.Proofs.Answer.Visibility
import Registrar.Proofs.Query.Patterns
import Registrar.Proofs.Query.WellFormed
import Registrar.Proofs.Query.Grammar
import Registrar.Proofs.Service.Catalogs
import Registrar.Proofs.Service.Sharing
import Registrar.Proofs.Query.Acceptance
import Registrar.Proofs.Query.Rendering
import Registrar.Proofs.Answer.Agreement
import Registrar.Proofs.Answer.Restriction
import Registrar.Proofs.Answer.Permuted
import Registrar.Proofs.Answer.Arrival
import Registrar.Proofs.Answer.Failures
import Registrar.Proofs.Answer.RollUp
import Registrar.Proofs.Answer.Totals
import Registrar.Proofs.Service.Engines
import Registrar.Proofs.Query.DataSets
import Registrar.Proofs.Answer.Successive
import Registrar.Proofs.Answer.Rephrased
import Registrar.Proofs.Answer.Averages
import Registrar.Proofs.Answer.Means
import Registrar.Proofs.Numeric.Drift
import Registrar.Proofs.Numeric.Bounds
import Registrar.Proofs.Numeric.Conversion
import Registrar.Proofs.Answer.Accumulation
import Registrar.Proofs.Query.Globs
import Registrar.Proofs.Answer.Negations
import Registrar.Proofs.Answer.Maxima
import Registrar.Proofs.Service.Naming
import Registrar.Proofs.Data.Encoding
import Registrar.Proofs.Numeric.Fitting
import Registrar.Proofs.Json.Stepwise
