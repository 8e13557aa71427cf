import GatedResources.CommandLine
import GatedResources.Main
import GatedResources.Server.App
import GatedResources.Sql.Render
import GatedResources.Proofs.Mediation
import GatedResources.Proofs.LiteralNames
import GatedResources.Proofs.Selections
import GatedResources.Proofs.BulkRemoval
import GatedResources.Proofs.FilterMeaning
import GatedResources.Proofs.RestAnswers
import GatedResources.Proofs.Interchange
import GatedResources.Proofs.FailedRequests
import GatedResources.Proofs.GateDecision
import GatedResources.Proofs.NumberRange
import GatedResources.Proofs.BoundValues
import GatedResources.Proofs.RefusedRequests
import GatedResources.Proofs.ProvenRoles
import GatedResources.Proofs.CheckOrder
import GatedResources.Proofs.StoreRuns
import GatedResources.Proofs.EncodedRequests
import GatedResources.Proofs.HiddenActions
import GatedResources.Proofs.OwnValues
import GatedResources.Proofs.Containment
import GatedResources.Proofs.NarrowedRemovals
import GatedResources.Proofs.CoveringFilters
import GatedResources.Proofs.Paging
import GatedResources.Proofs.GivenValues
import GatedResources.Proofs.UpdateLaws
import GatedResources.Proofs.InsertedRecords
import GatedResources.Proofs.AddressedRecords
import GatedResources.Proofs.RemovalOrder
import GatedResources.Proofs.PresentedTokens
import GatedResources.Proofs.SentRequests
import GatedResources.Proofs.Overlays
import GatedResources.Proofs.SettingsLayers
import GatedResources.Proofs.SignedTokens
import GatedResources.Proofs.TextSettings
import GatedResources.Proofs.PrintedSettings
