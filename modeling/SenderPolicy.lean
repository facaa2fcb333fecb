import SenderPolicy.Logging
import SenderPolicy.Main
import SenderPolicy.Proofs.Chain.Reference
import SenderPolicy.Proofs.Chain.Termination
import SenderPolicy.Proofs.Report.LookupCount
import SenderPolicy.Proofs.Report.Totality
import SenderPolicy.Proofs.Report.Verdict
import SenderPolicy.Proofs.Chain.Conservation
import SenderPolicy.Proofs.Chain.Trace
import SenderPolicy.Proofs.Chain.Branch
import SenderPolicy.Proofs.Chain.Exploration
import SenderPolicy.Proofs.Chain.Loops
import SenderPolicy.Proofs.Record.Reordering
import SenderPolicy.Proofs.Chain.Reordering
import SenderPolicy.Proofs.Report.TermOrder
import SenderPolicy.Proofs.Chain.Deadline
import SenderPolicy.Proofs.Chain.Truncation
import SenderPolicy.Proofs.Chain.Agreement
import SenderPolicy.Proofs.Chain.Siblings
import SenderPolicy.Proofs.Report.Preview
import SenderPolicy.Proofs.Record.RoundTrip
import SenderPolicy.Proofs.Chain.Punctuality
import SenderPolicy.Proofs.Report.Repeatability
import SenderPolicy.Proofs.Term.Grammar
import SenderPolicy.Proofs.Term.TestOrder
import SenderPolicy.Http.History
import SenderPolicy.Proofs.Http.Exchange
import SenderPolicy.Proofs.Http.Limit
import SenderPolicy.Proofs.Chain.Marks
import SenderPolicy.Proofs.Chain.Remainder
import SenderPolicy.Proofs.DomainName
import SenderPolicy.Proofs.Http.Asking
import SenderPolicy.Proofs.Record.Isolation
import SenderPolicy.Proofs.Issue.Order
import SenderPolicy.Proofs.Report.RootFindings
import SenderPolicy.Proofs.Report.Subject
import SenderPolicy.Proofs.Record.Lookalikes
import SenderPolicy.Proofs.Term.Spelling
import SenderPolicy.Proofs.Term.Networks
import SenderPolicy.Proofs.Lookup
import SenderPolicy.Proofs.Chain.Calls
import SenderPolicy.Proofs.Http.Head
