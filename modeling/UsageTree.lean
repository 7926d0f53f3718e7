import UsageTree.Path
import UsageTree.Table
import UsageTree.Binary64
import UsageTree.Node
import UsageTree.Tally
import UsageTree.ByteSize
import UsageTree.LastChange
import UsageTree.Row
import UsageTree.Json.Reader
import UsageTree.Validation.Request
import UsageTree.Text
import UsageTree.Service
import UsageTree.Config
import UsageTree.Sorting
import UsageTree.Numeral
import UsageTree.Proofs.Filling
import UsageTree.Proofs.Latest
import UsageTree.Proofs.Reach
import UsageTree.Proofs.TallyForm
import UsageTree.Proofs.Attempt
import UsageTree.Proofs.Levels
import UsageTree.Proofs.NameOrder
import UsageTree.Proofs.PerNode
import UsageTree.Proofs.Reordered
import UsageTree.Proofs.Unfolding
import UsageTree.Proofs.RowIds
import UsageTree.Proofs.Nested
import UsageTree.Proofs.NodeRecords
import UsageTree.Proofs.Grown
import UsageTree.Proofs.Coverage
import UsageTree.Proofs.Conservation
import UsageTree.Proofs.Acceptance
import UsageTree.Proofs.Outline
import UsageTree.Proofs.Limits
import UsageTree.Proofs.Overflow
import UsageTree.Proofs.Failure
import UsageTree.Proofs.Visible
import UsageTree.Proofs.Served
import UsageTree.Proofs.Spelling
import UsageTree.Proofs.Written
import UsageTree.Proofs.Positions
import UsageTree.Proofs.Siblings
import UsageTree.Proofs.Rounding
import UsageTree.Proofs.Shares
import UsageTree.Proofs.Scaled
import UsageTree.Proofs.Arrival
import UsageTree.Proofs.LocalTime
import UsageTree.Proofs.Obstacles
import UsageTree.Proofs.Opening
import UsageTree.Proofs.Chronology
import UsageTree.Proofs.Layout
import UsageTree.Proofs.Units
import UsageTree.Proofs.ShownSizes
import UsageTree.Proofs.SizeOrder
import UsageTree.Proofs.Partition
import UsageTree.Proofs.NodeOrder
import UsageTree.Proofs.Folding
import UsageTree.Text.Normalization
import UsageTree.Proofs.Refolding
import UsageTree.Proofs.Chains
import UsageTree.Proofs.Descent
import UsageTree.Proofs.Notations
