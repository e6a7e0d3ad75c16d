import Specimen.Files.Failing
import Specimen.Generator.Scripted
import Specimen.Http.Server
import Specimen.Main
import Specimen.Proofs.Engine.Conformance
import Specimen.Proofs.Http.Readable
import Specimen.Proofs.Program.Readable
import Specimen.Proofs.Store.Equivalence
import Specimen.Proofs.Engine.Tour
import Specimen.Proofs.Engine.Stops
import Specimen.Proofs.Engine.Budget
import Specimen.Proofs.Engine.Cancellation
import Specimen.Proofs.Engine.Accounts
import Specimen.Proofs.Http.History
import Specimen.Proofs.Json.Numbers
import Specimen.Proofs.Schema.Positions
import Specimen.Proofs.Engine.Guarded
import Specimen.Proofs.Http.Failure
import Specimen.Proofs.Schema.Expressible
import Specimen.Proofs.Json.Survival
import Specimen.Proofs.Envelope
import Specimen.Proofs.Engine.Quiet
import Specimen.Proofs.Http.Outcome
import Specimen.Proofs.Json.Continuation
import Specimen.Proofs.Program.Agreement
import Specimen.Proofs.Engine.Limits
import Specimen.Proofs.Http.Confidentiality
import Specimen.Proofs.Http.ErrorEnvelope
import Specimen.Proofs.Engine.Composition
import Specimen.Proofs.Engine.Irrelevance
import Specimen.Proofs.Engine.Registration
import Specimen.Proofs.Request
import Specimen.Proofs.Store.Classification
import Specimen.Proofs.Generator.ImageAddress
import Specimen.Proofs.Generator.Texts
import Specimen.Proofs.Engine.Leaves
import Specimen.Proofs.Engine.Tallying
import Specimen.Proofs.Engine.Attainment
import Specimen.Proofs.Schema.Spellings
import Specimen.Proofs.Settings.ImageBase
import Specimen.Proofs.Settings.Layers
import Specimen.Proofs.Program.Traceless
