import Zrm.Core.BigEndian
import Zrm.Core.Result
import Zrm.Core.Reader
import Zrm.Core.Frame
import Zrm.Core.ScanLoop
import Zrm.Core.Placement
import Zrm.Core.DepthFirst
import Zrm.Core.Dict
import Zrm.Core.Loops
import Zrm.Core.Shuffle
import Zrm.Core.Gather
import Zrm.Core.FormalSum
import Zrm.Core.Composition
import Zrm.Core.HashTree
import Zrm.Core.PartialGroup
import Zrm.Core.FreeModule
import Zrm.Core.Logged
import Zrm.Core.Brackets
import Zrm.Core.LevelStack
import Zrm.Core.Regex
import Zrm.Core.PrefixCode
import Zrm.L1Types.Opaque
import Zrm.L1Types.Scalar
import Zrm.L1Types.Reject
import Zrm.L2Codec.Cursor
import Zrm.L2Codec.ResourceWire
import Zrm.L2Codec.RoundTrip
import Zrm.L2Codec.Precedence
import Zrm.L2Codec.Truncation
import Zrm.L2Codec.ByteChanges
import Zrm.L2Codec.ResourceId
import Zrm.L2Crypto.Hash
import Zrm.L2Crypto.DomainSeparation
import Zrm.L3Policy.Limits
import Zrm.L3Policy.LimitChecks
import Zrm.L3Policy.Cost
import Zrm.L3Policy.MachinePolicy
import Zrm.L3Policy.VerifierPolicy
import Zrm.L3Policy.Reservation
import Zrm.L3Policy.AdmissionShape
import Zrm.L3Policy.ResourceKind
import Zrm.L4Kernel.Roles
import Zrm.L4Kernel.Partition
import Zrm.L4Kernel.Lookup
import Zrm.L4Kernel.Resource
import Zrm.L4Kernel.ResourceChecks
import Zrm.L4Kernel.RoleBinding
import Zrm.L4Kernel.IndexLoops
import Zrm.L4Verifier.BoundedArtifact
import Zrm.L5Reference.KindPolicyOracle
import Zrm.L5Reference.KindPolicyRefinement
import Zrm.L5Reference.CanonicalJson
import Zrm.L5Reference.CanonicalText
import Zrm.L5Reference.LinearPoint
import Zrm.L5Reference.KindBasis
import Zrm.L5Reference.Forgeability
import Zrm.L5Reference.Coverage
import Zrm.L5Reference.SemanticSummary
import Zrm.L5Reference.ShardComposition
import Zrm.L5Reference.Conservation
import Zrm.L5Reference.PartialScalars
import Zrm.L5Reference.PointModule
import Zrm.L5Reference.RootBinding
import Zrm.L5Reference.ProofTopology
import Zrm.L6Tools.Value
import Zrm.L6Tools.VectorReplay
import Zrm.L6Tools.DependencyGraph
import Zrm.L6Tools.DelegationPlan
import Zrm.L6Tools.Text
import Zrm.L6Tools.RustLexer
import Zrm.L6Tools.ScannerAgreement
import Zrm.L6Tools.Delimiters
import Zrm.L6Tools.Tokens
import Zrm.L6Tools.RustFunctions
import Zrm.L6Tools.Metrics
import Zrm.L6Tools.PackageManifest
import Zrm.L6Tools.ParameterSegments
import Zrm.L6Tools.ParameterLists
import Zrm.L6Tools.ImplOwners
import Zrm.L6Tools.SurfacePolicy
import Zrm.L6Tools.PublicSurface
import Zrm.L6Tools.PublicFunctions
import Zrm.L6Tools.BomCommon
import Zrm.L6Tools.BomGeneration
import Zrm.L6Tools.BuildSurface
import Zrm.L6Tools.Sbom
import Zrm.L6Tools.SbomMerge
import Zrm.L6Tools.SbomReading
import Zrm.L6Tools.SbomErrors
import Zrm.L6Tools.SbomOrder
import Zrm.L6Tools.SbomComplete
import Zrm.L6Tools.Findings
import Zrm.L6Tools.Cbom
import Zrm.L6Tools.ComplexityGate
import Zrm.L7Fuzz.Harness
import Zrm.L7Fuzz.ResourceRoles
import Zrm.L7Fuzz.RolesCorpus
import Zrm.L7Fuzz.RoleBound
import Zrm.L7Fuzz.PolicyTargets
import Zrm.L7Fuzz.WireTargets
