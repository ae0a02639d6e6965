import Bursary.Form.Student
import Bursary.Form.Criteria
import Bursary.Form.Weights
import Bursary.Model.Table
import Bursary.Service.Answer
import Bursary.Proofs.Verdict
import Bursary.Proofs.Binary64.Order
import Bursary.Proofs.Binary64.Rounding
import Bursary.Proofs.Binary64.Sum
import Bursary.Proofs.Provider.Run
import Bursary.Proofs.Provider.Isolation
import Bursary.Proofs.Provider.Lifetime
import Bursary.Proofs.Binary64.Proportion
import Bursary.Proofs.Binary64.Logistic
import Bursary.Proofs.Prediction
import Bursary.Proofs.Ranking
import Bursary.Proofs.Provision
import Bursary.Proofs.Batch
import Bursary.Proofs.Value.Writable
import Bursary.Proofs.Evaluation
import Bursary.Proofs.Intake
import Bursary.Proofs.Independence
import Bursary.Proofs.Settings
import Bursary.Proofs.Provider.Safety
import Bursary.Proofs.Relaxation.Change
import Bursary.Proofs.Relaxation.Condition
import Bursary.Proofs.Relaxation.Verdict
import Bursary.Proofs.Binary64.Monotone
import Bursary.Proofs.Binary64.Error
import Bursary.Proofs.Binary64.Increase
import Bursary.Proofs.Advantage
import Bursary.Proofs.Likelihood
import Bursary.Proofs.Checks
import Bursary.Proofs.Agreement
import Bursary.Proofs.Eligible
import Bursary.Proofs.Text.Trim
import Bursary.Proofs.Text.LetterCase
import Bursary.Proofs.NormalForm
import Bursary.Proofs.Value.LetterCase
import Bursary.Proofs.Value.Related
import Bursary.Proofs.Descending
import Bursary.Proofs.LetterCase
import Bursary.Proofs.Unusable
import Bursary.Proofs.Respelling
import Bursary.Proofs.Acceptance
import Bursary.Proofs.Provider.Table
import Bursary.Proofs.Refusal
import Bursary.Proofs.Service
import Bursary.Proofs.ZeroMinimum
import Bursary.Proofs.Factor.Decomposition
import Bursary.Proofs.Factor.Count
import Bursary.Proofs.Factor.Range
import Bursary.Proofs.Rounding
import Bursary.Proofs.Bands
import Bursary.Form.Features
import Bursary.Extraction
import Bursary.Proofs.Extraction
import Bursary.Proofs.Aggregation
import Bursary.Proofs.Value.Equality
import Bursary.Proofs.Value.Json
import Bursary.Proofs.Operators
import Bursary.Proofs.Missing
import Bursary.Proofs.History
import Bursary.Proofs.Paths
import Bursary.Proofs.Text.Padding
import Bursary.Proofs.Membership
import Bursary.Proofs.Value.Spelling
import Bursary.Proofs.Grammar
import Bursary.Proofs.FeatureRanking
import Bursary.Proofs.Text.Split
import Bursary.Proofs.Listing
import Bursary.Proofs.Naming
