import OpenApiClient.CSharp.Reader
import OpenApiClient.Main
import OpenApiClient.Proofs.DeclaredNames
import OpenApiClient.Proofs.Generations
import OpenApiClient.Proofs.LaterOperations
import OpenApiClient.Proofs.Erasing
import OpenApiClient.Proofs.NamespaceLines
import OpenApiClient.Proofs.Indentation
import OpenApiClient.Proofs.Literals
import OpenApiClient.Proofs.Wires
import OpenApiClient.Proofs.WireTexts
import OpenApiClient.Proofs.SchemaReferences
import OpenApiClient.Proofs.BaseTypes
import OpenApiClient.Proofs.OutputSwitches
import OpenApiClient.Proofs.Exclusions
import OpenApiClient.Proofs.FileWrites
import OpenApiClient.Proofs.RunEnds
import OpenApiClient.Proofs.Artifacts
import OpenApiClient.Proofs.Calls
import OpenApiClient.Proofs.Nullability
import OpenApiClient.Proofs.InterfaceNames
import OpenApiClient.Proofs.Freezing
import OpenApiClient.Proofs.Circles
import OpenApiClient.Proofs.Draining
import OpenApiClient.Proofs.Signatures
import OpenApiClient.Proofs.Comments
import OpenApiClient.Proofs.Stripping
import OpenApiClient.Proofs.NullTypes
import OpenApiClient.Proofs.RetypedSchemas
import OpenApiClient.Proofs.Decoded
import OpenApiClient.Proofs.Opened
import OpenApiClient.Proofs.ReaderFaults
import OpenApiClient.Proofs.FaultClasses
import OpenApiClient.Proofs.Overriding
import OpenApiClient.Proofs.EnumMembers
import OpenApiClient.Proofs.KeptReferences
import OpenApiClient.Proofs.ResponseChoice
import OpenApiClient.Proofs.InterfaceLetter
import OpenApiClient.Proofs.PropertyTypes
import OpenApiClient.Proofs.SchemaPointers
import OpenApiClient.Proofs.KeptLetters
