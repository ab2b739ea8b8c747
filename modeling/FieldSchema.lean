import FieldSchema.Cache.Command
import FieldSchema.Logging.Output
import FieldSchema.Outcome
import FieldSchema.Rule.RefinementRecord
import FieldSchema.SchemaPair
import FieldSchema.Proofs.Cache.Inclusion
import FieldSchema.Proofs.Cache.Lifetime
import FieldSchema.Proofs.Cache.Recency
import FieldSchema.Proofs.Cache.Transparency
import FieldSchema.Proofs.Signature.Identity
import FieldSchema.Proofs.Validation.Storable
import FieldSchema.Storage.Index
import FieldSchema.Storage.Validator
import FieldSchema.Validation.ErrorRecord
import FieldSchema.Value.Label
import FieldSchema.Validation.Detail
import FieldSchema.Proofs.Text.Lowercase
import FieldSchema.Proofs.Validation.Names
import FieldSchema.Proofs.Validation.Stable
import FieldSchema.Proofs.Validation.Reparsing
import FieldSchema.Proofs.Validation.Mirrored
import FieldSchema.Proofs.Validation.Independence
import FieldSchema.Proofs.Validation.Nesting
import FieldSchema.Proofs.Validation.Partial
import FieldSchema.Proofs.Validation.Strictness
import FieldSchema.Proofs.Rule.Wording
import FieldSchema.Proofs.Validation.Wording
import FieldSchema.Proofs.Rule.AllowedValues
import FieldSchema.Proofs.Validation.StoredWords
import FieldSchema.Proofs.Rule.PasswordNames
import FieldSchema.Proofs.Rule.PasswordGuard
import FieldSchema.Proofs.Rule.Formats
import FieldSchema.Proofs.Rule.Order
import FieldSchema.Proofs.Validation.Fitting
import FieldSchema.Proofs.Validation.Positions
import FieldSchema.Proofs.Validation.Expectation
import FieldSchema.Proofs.Storage.IndexModels
import FieldSchema.Proofs.Storage.LastStated
import FieldSchema.Proofs.Pattern.InlineFlags
import FieldSchema.Proofs.Validation.Documented
import FieldSchema.Proofs.Cache.Accounts
import FieldSchema.Proofs.Validation.RejectionRecords
import FieldSchema.Proofs.Storage.Undiagnosed
import FieldSchema.Proofs.Logging.Secrets
import FieldSchema.Proofs.Rule.ArrayNotations
import FieldSchema.Proofs.Validation.WrittenDates
import FieldSchema.Proofs.Signature.GraphOfValue
