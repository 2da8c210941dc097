import Golden.Fixtures
import Golden.Proofs.BlackLab.Directory
import Golden.Proofs.BlackLab.FileName
import Golden.Proofs.BlackLab.Relocation
import Golden.Proofs.Decimal.Digits
import Golden.Proofs.Decimal.Rounding
import Golden.Proofs.Decimal.Shortest
import Golden.Proofs.Diff.Equality
import Golden.Proofs.Diff.Hidden
import Golden.Proofs.Diff.Lines
import Golden.Proofs.Diff.Listing
import Golden.Proofs.Diff.Positions
import Golden.Proofs.Diff.Reflexive
import Golden.Proofs.Double.Exact
import Golden.Proofs.Expectation.Again
import Golden.Proofs.Expectation.Contained
import Golden.Proofs.Expectation.Harmless
import Golden.Proofs.Expectation.Ledger
import Golden.Proofs.Expectation.Logged
import Golden.Proofs.Expectation.Outcomes
import Golden.Proofs.Expectation.Quiet
import Golden.Proofs.Http.Exchange
import Golden.Proofs.Json.Number
import Golden.Proofs.Json.Quoted
import Golden.Proofs.Json.RoundTrip
import Golden.Proofs.Log.Percent
import Golden.Proofs.Mask.Merge
import Golden.Proofs.Mask.Shapes
import Golden.Proofs.Name.Device
import Golden.Proofs.Name.Limit
import Golden.Proofs.Name.Meaning
import Golden.Proofs.Name.Safe
import Golden.Proofs.Position.Text
import Golden.Proofs.Sanitize.Agreement
import Golden.Proofs.Sanitize.Course
import Golden.Proofs.Sanitize.Pure
import Golden.Proofs.Sanitize.Shallow
import Golden.Proofs.Sanitize.Twice
import Golden.Proofs.Settings.Refused
import Golden.Proofs.Store.Access
import Golden.Proofs.Store.Apart
import Golden.Proofs.Store.Codec
import Golden.Proofs.Store.Contained
import Golden.Proofs.Store.Keeping
import Golden.Proofs.Store.Places
import Golden.Proofs.Text.Pattern
import Golden.Proofs.Text.Utf8
import Golden.Proofs.UrlCase.Lines
import Golden.Proofs.UrlCase.Refines
import Golden.Proofs.Value.Image
import Golden.Proofs.Value.Json
import Golden.Proofs.Volume.Apart
import Golden.Proofs.Volume.Bytes
import Golden.Proofs.Volume.Directories
import Golden.Proofs.Volume.Files
import Golden.Proofs.Volume.Growth
import Golden.Proofs.Volume.Links
import Golden.Proofs.Volume.Resolve
import Golden.Proofs.Volume.Stride
import Golden.Proofs.Volume.Walk
import Golden.Proofs.World.Steps
