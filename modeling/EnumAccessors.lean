import EnumAccessors.Demo
import EnumAccessors.Main
import EnumAccessors.Pass.Session
import EnumAccessors.Proofs.Groups
import EnumAccessors.Proofs.Description
import EnumAccessors.Proofs.Lowering
import EnumAccessors.Proofs.AccessorNames
import EnumAccessors.Proofs.Validation
import EnumAccessors.Proofs.Pass
import EnumAccessors.Proofs.Cancellation
import EnumAccessors.Proofs.Sessions
import EnumAccessors.Proofs.Relocation
import EnumAccessors.Proofs.Sources
import EnumAccessors.Proofs.RoundTrip
import EnumAccessors.Proofs.FixRuns
import EnumAccessors.Proofs.Generate
import EnumAccessors.Proofs.Configuration
import EnumAccessors.Proofs.Preferences
import EnumAccessors.Proofs.Offers
import EnumAccessors.Proofs.Batches
import EnumAccessors.Proofs.FixedTypes
import EnumAccessors.Proofs.Messages
import EnumAccessors.Proofs.Listings
import EnumAccessors.Proofs.EditHistories
import EnumAccessors.Proofs.MemberExclusions
import EnumAccessors.Proofs.ReferenceLists
import EnumAccessors.Proofs.Declarations
import EnumAccessors.Proofs.Renderings
import EnumAccessors.Proofs.GuardedRegions
import EnumAccessors.Proofs.Expressions
import EnumAccessors.Proofs.Substitution
import EnumAccessors.Proofs.Json.Values
import EnumAccessors.Proofs.Refusals
import EnumAccessors.Proofs.Merging
import EnumAccessors.Proofs.WrittenDiagnostics
import EnumAccessors.Proofs.PascalNames
