import FluentSql.Bind.Source
import FluentSql.Session.Database
import FluentSql.Session.Script
import FluentSql.Session.Terminal
import FluentSql.Query.Call
import FluentSql.Storage
import FluentSql.Proofs.Provenance.Statement
import FluentSql.Proofs.StringLiteral
import FluentSql.Proofs.Containment.Statement
import FluentSql.Proofs.Alignment
import FluentSql.Proofs.Outline.Condition
import FluentSql.Proofs.Refusal
import FluentSql.Proofs.Restoration
import FluentSql.Proofs.AggregateStatement
import FluentSql.Proofs.Recording
import FluentSql.Proofs.Rollback
import FluentSql.Proofs.Depth
import FluentSql.Proofs.Agreement
import FluentSql.Proofs.Bare
import FluentSql.Proofs.Families
import FluentSql.Proofs.Settled
import FluentSql.Proofs.Appending
import FluentSql.Proofs.Forwarding
import FluentSql.Proofs.Holding
import FluentSql.Proofs.Holding.Statement
import FluentSql.Proofs.Holding.Program
import FluentSql.Proofs.Accounting
import FluentSql.Proofs.Holding.Sending
import FluentSql.Proofs.Initiating
import FluentSql.Proofs.Unquoting
import FluentSql.Proofs.Assigning
import FluentSql.Proofs.Addressing
import FluentSql.Proofs.Inserting
import FluentSql.Proofs.Cutting
import FluentSql.Proofs.Selecting
import FluentSql.Proofs.Extracting
import FluentSql.Proofs.Vocabulary
import FluentSql.Proofs.Twins
import FluentSql.Proofs.Heading
import FluentSql.Proofs.Keying
import FluentSql.Proofs.Limiting
import FluentSql.Proofs.Pairing
import FluentSql.Proofs.Listing
import FluentSql.Proofs.Paging
import FluentSql.Proofs.Storing
import FluentSql.Proofs.Escaping
import FluentSql.Proofs.Descent
import FluentSql.Proofs.Queues
import FluentSql.Proofs.Spelling
import FluentSql.Proofs.Counting
