import Egress.Text.Normal
import Egress.Text.Quoted
import Egress.Text.Utf8
import Egress.Domain.MappingTable
import Egress.Domain.CompositionTable
import Egress.Domain.Joining
import Egress.Domain.DirectionTable
import Egress.Decimal.Reading
import Egress.Json.Writer
import Egress.Json.Reader
import Egress.Url
import Egress.Session
import Egress.Toml.Reader
import Egress.Settings
import Egress.Daemon.Basic
import Egress.CommandLine.Inspect
import Egress.CommandLine.Launch
import Egress.Main
import Egress.Proofs.Decision
import Egress.Proofs.Addresses
import Egress.Proofs.NameRules
import Egress.Proofs.SlashRules
import Egress.Proofs.Doubles
import Egress.Proofs.Generations
import Egress.Proofs.DaemonSteps
import Egress.Proofs.LineService
import Egress.Proofs.InForce
import Egress.Proofs.BuiltIn
import Egress.Proofs.HostTexts
import Egress.Proofs.ListedHosts
import Egress.Proofs.CanonicalTexts
import Egress.Proofs.StableLists
import Egress.Proofs.RuleOrder
import Egress.Proofs.Dialects
import Egress.Proofs.EncodedTexts
import Egress.Proofs.JsonTokens
import Egress.Proofs.JsonForms
import Egress.Proofs.JsonRoundTrip
import Egress.Proofs.PayloadFiles
import Egress.Proofs.DecodedBytes
import Egress.Proofs.AnswerLines
import Egress.Proofs.FileChanges
import Egress.Proofs.Snapshots
import Egress.Proofs.ProxyHosts
import Egress.Proofs.Watching
import Egress.Proofs.TwoDecisions
import Egress.Proofs.FieldFrames
import Egress.Proofs.NullFields
import Egress.Proofs.RuleSets
import Egress.Proofs.CountedVerdicts
import Egress.Proofs.Announcement
import Egress.Proofs.CountedReloads
import Egress.Proofs.Convergence
import Egress.Proofs.StartUp
import Egress.Proofs.StopRequests
import Egress.Proofs.SpacedUrls
import Egress.Proofs.InspectionAgrees
import Egress.Proofs.Ports
import Egress.Proofs.Reports
import Egress.Proofs.ExportedPayloads
import Egress.Proofs.EditedRules
import Egress.Proofs.Spellings
import Egress.Proofs.AddressTexts
import Egress.Proofs.AddressRules
import Egress.Proofs.NestedBlocks
import Egress.Proofs.Subdomains
import Egress.Proofs.Directives
import Egress.Proofs.LogLevels
