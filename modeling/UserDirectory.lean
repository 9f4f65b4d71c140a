import UserDirectory.Number.Reading
import UserDirectory.Text.LetterCase
import UserDirectory.Timestamp.Reader
import UserDirectory.Timestamp.Writer
import UserDirectory.Criteria
import UserDirectory.Index.Query
import UserDirectory.Record
import UserDirectory.Avatar
import UserDirectory.Visibility
import UserDirectory.Concurrent.Permits
import UserDirectory.Store.Batch
import UserDirectory.Lookup.Users
import UserDirectory.Lookup.Groups
import UserDirectory.Lookup.Tokens
import UserDirectory.Lookup.Managed
import UserDirectory.Index.Access
import UserDirectory.Tables
import UserDirectory.Search.Service
import UserDirectory.ErrorBody
import UserDirectory.Bearer.Validator
import UserDirectory.Web.Site
import UserDirectory.Proofs.Search.Redaction
import UserDirectory.Proofs.Search.Join
import UserDirectory.Proofs.Search.Noninterference
import UserDirectory.Proofs.Search.StageLaw
import UserDirectory.Proofs.Concurrent.Gathering
import UserDirectory.Proofs.Bearer.Admission
import UserDirectory.Proofs.Lookup.Throttled
import UserDirectory.Proofs.Search.Browsing
import UserDirectory.Proofs.Web.Independence
import UserDirectory.Proofs.Web.Decision
import UserDirectory.Proofs.Index.Matching
import UserDirectory.Proofs.Lookup.Rationed
import UserDirectory.Proofs.Lookup.Chained
import UserDirectory.Proofs.Search.Limits
import UserDirectory.Proofs.Search.TokenCounts
import UserDirectory.Proofs.Lookup.Integrations
import UserDirectory.Proofs.Timestamp.Stored
import UserDirectory.Proofs.Timestamp.Served
import UserDirectory.Proofs.Search.Projection
import UserDirectory.Proofs.Lookup.Reordering
import UserDirectory.Proofs.Lookup.StoredItems
