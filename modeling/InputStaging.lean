import InputStaging.Main
import InputStaging.FileTree
import InputStaging.Service
import InputStaging.Text.Template
import InputStaging.Proofs.Fileset.Reference
import InputStaging.Proofs.Path.NormalForm
import InputStaging.Proofs.CallScript
import InputStaging.Proofs.Containment
import InputStaging.Proofs.LastWrite
import InputStaging.Proofs.Takeover
import InputStaging.Proofs.Conflicts
import InputStaging.Proofs.Fileset.Repeats
import InputStaging.Proofs.Modes
import InputStaging.Proofs.Beneath
import InputStaging.Proofs.Fileset.Sources
import InputStaging.Proofs.Fileset.Permuted
import InputStaging.Proofs.Fileset.Policies
import InputStaging.Proofs.Fileset.Apart
import InputStaging.Proofs.Path.Climbing
import InputStaging.Proofs.Mounts
import InputStaging.Proofs.Provenance
import InputStaging.Proofs.Strictness
import InputStaging.Proofs.Rejudged
import InputStaging.Proofs.Attempts
import InputStaging.Proofs.Fileset.Accounts
import InputStaging.Proofs.Faults
import InputStaging.Proofs.Setup.ClosedDescription
import InputStaging.Proofs.Path.Reach
import InputStaging.Proofs.Fileset.Escapes
import InputStaging.Proofs.Fileset.Whole
import InputStaging.Proofs.Setup.Respelled
import InputStaging.Proofs.Placement
import InputStaging.Proofs.Setup.Directories
import InputStaging.Proofs.Setup.Overriding
import InputStaging.Proofs.Setup.Verdicts
import InputStaging.Proofs.Listing
import InputStaging.Proofs.ListingForms
import InputStaging.Proofs.Path.Joining
import InputStaging.Proofs.Counts
import InputStaging.Proofs.Document.Sets
import InputStaging.Proofs.Schedules
import InputStaging.Proofs.Following
import InputStaging.Proofs.Template
import InputStaging.Proofs.Calendar
