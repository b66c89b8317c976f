import GridServe.Binary.Format
import GridServe.Decimal.Text
import GridServe.Text.Utf8
import GridServe.Json.Value
import GridServe.Json.Reader
import GridServe.Json.Writer
import GridServe.NameMap
import GridServe.Dataset.Basic
import GridServe.Error.Io
import GridServe.Dataset.Error
import GridServe.Dataset.Check
import GridServe.Dataset.Read
import GridServe.Dataset.Format
import GridServe.Query.Validate
import GridServe.Query.Index
import GridServe.Heatmap.Render
import GridServe.Error.Server
import GridServe.Metadata.Basic
import GridServe.Metadata.Cache
import GridServe.Slice
import GridServe.Artifact.Pipeline
import GridServe.Artifact.Tasks
import GridServe.Http.Target
import GridServe.Http.Service
import GridServe.Options.Basic
import GridServe.Options.Parse
import GridServe.Text.Alphanumeric
import GridServe.Startup.Log
import GridServe.Text.Debug
import GridServe.Startup.Files
import GridServe.Artifact.Sweep
import GridServe.Startup.Run
import GridServe.Startup.Address
import GridServe.Pem.Reader
import GridServe.Key.Pkcs8
import GridServe.Number.ModArith
import GridServe.Key.Rsa
import GridServe.Key.Ec
import GridServe.Key.Ed25519
import GridServe.Startup.Tls
import GridServe.Main
import GridServe.Proofs.Consistency
import GridServe.Proofs.BoxRead
import GridServe.Proofs.Extraction
import GridServe.Proofs.Agreement
import GridServe.Proofs.RequestChecks
import GridServe.Proofs.TaskSteps
import GridServe.Proofs.ArtifactCleanup
import GridServe.Proofs.RenderPermits
import GridServe.Proofs.SingleFlight
import GridServe.Proofs.TextCut
import GridServe.Proofs.HeatmapLayout
import GridServe.Proofs.Description
import GridServe.Proofs.CheckFaults
import GridServe.Proofs.ErrorAnswers
import GridServe.Proofs.ImageSweep
