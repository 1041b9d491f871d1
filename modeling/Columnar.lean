import Columnar.Kernel.Sequence
import Columnar.Resampling.Resampler
import Columnar.Proofs.Calendar.Civil
import Columnar.Proofs.Calendar.Overflow
import Columnar.Proofs.Calendar.Periods
import Columnar.Proofs.Calendar.Boundaries
import Columnar.Proofs.Grid.Offsets
import Columnar.Proofs.Missing.Arithmetic
import Columnar.Proofs.Missing.Reductions
import Columnar.Proofs.Resampling.Partition
import Columnar.Proofs.Resampling.Chronological
import Columnar.Proofs.Resampling.TwoStage
import Columnar.Proofs.Kernel.Elementwise
import Columnar.Proofs.Missing.Sentinel
import Columnar.Proofs.Scalar.Quotient
import Columnar.Proofs.Kernel.Extremum
import Columnar.Proofs.Scalar.NotANumber
import Columnar.Proofs.OrderedMap
import Columnar.Proofs.Table.Changes
import Columnar.Proofs.Table.Rectangular
import Columnar.Proofs.Grid.Writes
import Columnar.Proofs.Decimal.Digits
import Columnar.Proofs.Json.Text
import Columnar.Proofs.Json.Scalars
import Columnar.Proofs.Annotated.RoundTrip
import Columnar.Proofs.Table.RoundTrip
import Columnar.Proofs.Annotated.SetRelations
import Columnar.Proofs.Grid.RoundTrip
import Columnar.Proofs.Json.ReadBack
import Columnar.Proofs.Kernel.Forms
import Columnar.Proofs.Grid.Counting
import Columnar.Proofs.Calendar.DateTimes
import Columnar.Proofs.Table.Decoding
import Columnar.Proofs.Missing.Null
import Columnar.Proofs.Kernel.Mean
import Columnar.Proofs.Resampling.Means
import Columnar.Proofs.Kernel.Division
import Columnar.Proofs.Missing.Parsing
import Columnar.Proofs.Annotated.Coverage
import Columnar.Proofs.Kernel.Sums
import Columnar.Proofs.Resampling.Reordered
import Columnar.Proofs.Resampling.Idempotence
import Columnar.Proofs.Table.Algebra
import Columnar.Proofs.Annotated.FirstOccurrences
import Columnar.Proofs.Missing.NotNaN
import Columnar.Proofs.Grid.Nested
import Columnar.Proofs.Kernel.Masks
import Columnar.Proofs.Kernel.FirstUnbeaten
import Columnar.Proofs.Calendar.TextOrder
import Columnar.Proofs.Kernel.Compensation
