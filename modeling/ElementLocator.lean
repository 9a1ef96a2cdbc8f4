import ElementLocator.Config.Source
import ElementLocator.Config.Store
import ElementLocator.ErrorReport
import ElementLocator.Main
import ElementLocator.Proofs.Acceptance
import ElementLocator.Proofs.DocumentOrder
import ElementLocator.Selection
import ElementLocator.Tree.Live
import ElementLocator.Proofs.Contributions
import ElementLocator.Proofs.SearchStep
import ElementLocator.Proofs.Offences
import ElementLocator.Proofs.SearchAnswers
import ElementLocator.Proofs.OutlineText
import ElementLocator.Proofs.Yaml.Cursor
import ElementLocator.Proofs.Yaml.QuotedText
import ElementLocator.Proofs.Yaml.QuotedScalar
import ElementLocator.Proofs.Yaml.TokenStep
import ElementLocator.Proofs.Yaml.TokenRead
import ElementLocator.Proofs.Yaml.LineStep
import ElementLocator.Proofs.Yaml.OutlineTokens
import ElementLocator.Proofs.Yaml.OutlineNodes
import ElementLocator.Proofs.Yaml.OutlineValue
import ElementLocator.Proofs.Fields
import ElementLocator.Proofs.SavedTree
import ElementLocator.Proofs.OutlinePattern
import ElementLocator.Proofs.Agreement
import ElementLocator.Proofs.HandleTree
import ElementLocator.Proofs.Replay
import ElementLocator.Proofs.Walks
import ElementLocator.Proofs.HandleWalks
import ElementLocator.Proofs.PatternReading
import ElementLocator.Proofs.ConfigReading
import ElementLocator.Proofs.ConfigAnswers
import ElementLocator.Proofs.ConfigEnds
import ElementLocator.Proofs.OutlineInjectivity
import ElementLocator.Proofs.StoreRuns
import ElementLocator.Proofs.Yaml.Faults
import ElementLocator.Proofs.Yaml.ScanFaults
import ElementLocator.Proofs.Yaml.TagFaults
import ElementLocator.Proofs.Yaml.TokenFaults
import ElementLocator.Proofs.Yaml.NodeFaults
import ElementLocator.Proofs.Yaml.ValueFaults
import ElementLocator.Proofs.StreamReading
import ElementLocator.Proofs.Loading
import ElementLocator.Proofs.CheckReports
import ElementLocator.Proofs.Resolution
import ElementLocator.Proofs.SavedLabel
import ElementLocator.Proofs.CommandWords
import ElementLocator.Proofs.SavedCommands
import ElementLocator.Proofs.CheckOutput
import ElementLocator.Proofs.Narrowing
import ElementLocator.Proofs.CandidateOrder
import ElementLocator.Proofs.RecordReading
import ElementLocator.Proofs.LiteralMatches
import ElementLocator.Proofs.LiveOutlines
import ElementLocator.Proofs.SavedOutlines
import ElementLocator.Proofs.HandleReads
import ElementLocator.Proofs.SearchVisits
import ElementLocator.Proofs.QueryReports
import ElementLocator.Proofs.InjectedFailures
import ElementLocator.Proofs.ConfigSearch
import ElementLocator.Proofs.SettingsRuns
import ElementLocator.Proofs.PatternLines
import ElementLocator.Proofs.FirstUse
