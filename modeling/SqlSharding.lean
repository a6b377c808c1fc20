import SqlSharding.Main
import SqlSharding.Dialect.Json
import SqlSharding.Proofs.Drafts
import SqlSharding.Proofs.Query.Comparisons
import SqlSharding.Proofs.Rewriting
import SqlSharding.Proofs.Script
import SqlSharding.Proofs.Tiling
import SqlSharding.Proofs.Layout
import SqlSharding.Proofs.Groups.Marks
import SqlSharding.Proofs.Separators.Tables
import SqlSharding.Proofs.Printing
import SqlSharding.Proofs.Rule.NodeText
import SqlSharding.Proofs.Routing
import SqlSharding.Proofs.Rule.Binding
import SqlSharding.Proofs.Rule.Targets
import SqlSharding.Proofs.Rule.Duplicates
import SqlSharding.Proofs.Unread
import SqlSharding.Proofs.OwnWords
import SqlSharding.Proofs.Shell
import SqlSharding.Proofs.TableList.Commas
import SqlSharding.Proofs.Insertion.Assignments
import SqlSharding.Proofs.Shell.Boundary
import SqlSharding.Proofs.Rule.Columns
import SqlSharding.Proofs.Groups.Extent
import SqlSharding.Proofs.Progress.Loops
