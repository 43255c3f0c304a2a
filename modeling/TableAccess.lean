import TableAccess.Draft
import TableAccess.Gateway
import TableAccess.Pool.Basic
import TableAccess.Query.Decoder
import TableAccess.Scripted
import TableAccess.Session
import TableAccess.Proofs.CalendarText
import TableAccess.Proofs.ClauseOrder
import TableAccess.Proofs.ColumnLookup
import TableAccess.Proofs.ConditionMeaning
import TableAccess.Proofs.ConjoinedTerms
import TableAccess.Proofs.Drafts
import TableAccess.Proofs.FirstRefusal
import TableAccess.Proofs.GatewayRuns
import TableAccess.Proofs.IntegerParameters
import TableAccess.Proofs.JsonPassage
import TableAccess.Proofs.Membership
import TableAccess.Proofs.Noninterference
import TableAccess.Proofs.OpeningAlternatives
import TableAccess.Proofs.Parentheses
import TableAccess.Proofs.QueryDocuments
import TableAccess.Proofs.QueryText
import TableAccess.Proofs.RecordHistories
import TableAccess.Proofs.RecordStatements
import TableAccess.Proofs.ShortenedText
import TableAccess.Proofs.StoredValues
import TableAccess.Proofs.SuppliedColumns
import TableAccess.Proofs.TextSearch
import TableAccess.Proofs.UuidText
