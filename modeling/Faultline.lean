import Faultline.Cluster.Source
import Faultline.Files.Tree
import Faultline.Validation.Refusal
import Faultline.Proofs.Passage
import Faultline.Proofs.Passage.Identity
import Faultline.Proofs.Passage.Contexts
import Faultline.Proofs.Recovery
import Faultline.Proofs.Recovery.Carried
import Faultline.Proofs.Session
import Faultline.Proofs.Session.Opening
import Faultline.Proofs.Snapshot
import Faultline.Proofs.Text.Trimming
import Faultline.Proofs.Cluster.Selection
import Faultline.Proofs.Cluster.KubeconfigFile
import Faultline.Proofs.Cluster.Order
import Faultline.Proofs.Cluster.ServiceAccount
import Faultline.Proofs.Yaml.Reading
import Faultline.Proofs.Yaml.Record
import Faultline.Proofs.Yaml.Alike
import Faultline.Proofs.Cluster.KubeconfigShape
import Faultline.Proofs.Validation.Position
import Faultline.Proofs.Validation.Flattening
import Faultline.Proofs.Validation.Refusal
import Faultline.Proofs.Json.Numeral
import Faultline.Proofs.Json.Value
import Faultline.Proofs.Json.Spelling
import Faultline.Proofs.Json.Skipping
import Faultline.Proofs.Json.Members
import Faultline.Proofs.Json.Given
import Faultline.Proofs.Validation.Settings
import Faultline.Proofs.Report.Shown
import Faultline.Proofs.Enrichment
import Faultline.Proofs.Validation.Explained
import Faultline.Proofs.Handling
import Faultline.Proofs.Handling.Notices
import Faultline.Proofs.Handling.Said
import Faultline.Proofs.Report.Nested
import Faultline.Proofs.Category
import Faultline.Proofs.Cluster.Mode
import Faultline.Proofs.Validation.Translations
import Faultline.Proofs.Cluster.Independence
import Faultline.Proofs.Recovery.Foreign
import Faultline.Proofs.Report.Dumped
import Faultline.Proofs.Cluster.Address
