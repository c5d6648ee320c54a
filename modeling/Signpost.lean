import Signpost.Main
import Signpost.Dispatch.Stock
import Signpost.Number.Reading
import Signpost.Router.Pool
import Signpost.Proofs.Cli.Inspection
import Signpost.Proofs.Config.Faults
import Signpost.Proofs.Config.Rebinding
import Signpost.Proofs.Dispatch.Arity
import Signpost.Proofs.Dispatch.Calling
import Signpost.Proofs.Dispatch.Instances
import Signpost.Proofs.Dispatch.Reporting
import Signpost.Proofs.Dispatch.Service
import Signpost.Proofs.Pattern.Anchoring
import Signpost.Proofs.Pattern.Building
import Signpost.Proofs.Pattern.Cutting
import Signpost.Proofs.Pattern.Filling
import Signpost.Proofs.Pattern.Query
import Signpost.Proofs.Pattern.SlashCount
import Signpost.Proofs.Pattern.Translation
import Signpost.Proofs.Pattern.Wildcard
import Signpost.Proofs.Router.Contents
import Signpost.Proofs.Router.Values
import Signpost.Proofs.Pattern.ClosingSlash
import Signpost.Proofs.Text.Encodings
import Signpost.Proofs.Pattern.ClosingStar
import Signpost.Proofs.Pattern.Folding
import Signpost.Proofs.Pattern.Straight
