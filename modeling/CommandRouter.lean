import CommandRouter.Bot.Basic
import CommandRouter.Bot.Exchange
import CommandRouter.Bot.Serving
import CommandRouter.Calculator.Arguments
import CommandRouter.Calculator.Replay
import CommandRouter.Calculator.Routes
import CommandRouter.Command.Definition
import CommandRouter.Command.OptionType
import CommandRouter.Command.Wire
import CommandRouter.CommandRegistry
import CommandRouter.Config.Environment
import CommandRouter.Config.Extraction
import CommandRouter.Config.Loader
import CommandRouter.Config.Notation
import CommandRouter.Config.Schema
import CommandRouter.Config.Setting
import CommandRouter.Config.Wire
import CommandRouter.DispatchKey
import CommandRouter.Event
import CommandRouter.Interaction.Basic
import CommandRouter.Interaction.Wire
import CommandRouter.Json.Codec
import CommandRouter.Json.Document
import CommandRouter.Json.Double
import CommandRouter.Json.Printer
import CommandRouter.Json.Reader
import CommandRouter.Json.Record
import CommandRouter.Json.Value
import CommandRouter.Logging.Directive
import CommandRouter.Logging.Filter
import CommandRouter.Logging.Setup
import CommandRouter.Logging.Trial
import CommandRouter.Logging.ValuePattern.Atom
import CommandRouter.Logging.ValuePattern.Brackets
import CommandRouter.Logging.ValuePattern.Reader
import CommandRouter.Main
import CommandRouter.Pattern.Basic
import CommandRouter.Pattern.Reader
import CommandRouter.Pattern.Writer
import CommandRouter.Proofs.Decimals
import CommandRouter.Proofs.Steps
import CommandRouter.Proofs.Words
import CommandRouter.Response
import CommandRouter.Router.Handler
import CommandRouter.Router.Instruments
import CommandRouter.Router.Table
import CommandRouter.Scenario.Basic
import CommandRouter.Scenario.Host
import CommandRouter.Session.Local
import CommandRouter.Session.Scope
import CommandRouter.Text.Alphanumeric
import CommandRouter.Text.Blank
import CommandRouter.Text.Cut
import CommandRouter.Text.Decimal
import CommandRouter.Text.Hex
import CommandRouter.Text.Hidden
import CommandRouter.Text.Lines
import CommandRouter.Text.Quoted
import CommandRouter.Text.Scan
import CommandRouter.Toml.Reader
import CommandRouter.Toml.Scalar
import CommandRouter.Toml.Tree
import CommandRouter.Proofs.Numerals
import CommandRouter.Proofs.PatternGrammar
import CommandRouter.Proofs.PatternRoundTrip
import CommandRouter.Proofs.LeafList
import CommandRouter.Proofs.LeafTree
import CommandRouter.Proofs.Registration
import CommandRouter.Proofs.CommandShape
import CommandRouter.Proofs.CommandTree
import CommandRouter.Proofs.Declarations
import CommandRouter.Proofs.Routing
import CommandRouter.Proofs.RouteKeys
import CommandRouter.Proofs.Exchanges
import CommandRouter.Proofs.GoingLive
import CommandRouter.Proofs.Delivery
import CommandRouter.Proofs.Happenings
import CommandRouter.Proofs.Liveness
import CommandRouter.Proofs.FiniteNumbers
import CommandRouter.Proofs.FreeData
import CommandRouter.Proofs.Records
import CommandRouter.Proofs.Decoding
import CommandRouter.Proofs.Invocations
import CommandRouter.Proofs.WireRoundTrip
import CommandRouter.Proofs.Payloads
import CommandRouter.Proofs.Chains
import CommandRouter.Proofs.Entrances
import CommandRouter.Proofs.SessionHistory
import CommandRouter.Proofs.RegistrationOrder
import CommandRouter.Proofs.InputLines
import CommandRouter.Proofs.Replaying
import CommandRouter.Proofs.CanonicalSettings
import CommandRouter.Proofs.Layering
import CommandRouter.Proofs.RecordShapes
import CommandRouter.Proofs.ConfigKeys
import CommandRouter.Proofs.Loading
import CommandRouter.Proofs.Spacing
import CommandRouter.Proofs.WordByWord
import CommandRouter.Proofs.Plans
import CommandRouter.Proofs.AdminGate
import CommandRouter.Proofs.Containment
import CommandRouter.Proofs.ExactIntegers
import CommandRouter.Proofs.KeyOrder
import CommandRouter.Proofs.Sightings
import CommandRouter.Proofs.Runs
import CommandRouter.Proofs.ArithmeticReplies
import CommandRouter.Proofs.IntegerChoices
import CommandRouter.Proofs.CheckedConfigs
import CommandRouter.Proofs.GuildFiles
import CommandRouter.Proofs.GuildIds
import CommandRouter.Proofs.Descent
import CommandRouter.Proofs.Attribution
import CommandRouter.Proofs.FieldByField
import CommandRouter.Proofs.Levels
import CommandRouter.Proofs.WireRecords
import CommandRouter.Proofs.Respellings
