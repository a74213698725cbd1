import ErrorPages.Files.Tree
import ErrorPages.Main
import ErrorPages.Proofs.Broadcast
import ErrorPages.Proofs.BuiltIn
import ErrorPages.Proofs.CauseChain
import ErrorPages.Proofs.Counting
import ErrorPages.Proofs.Dressing
import ErrorPages.Proofs.ErrorCause
import ErrorPages.Proofs.Escaping
import ErrorPages.Proofs.FailureResponse
import ErrorPages.Proofs.Forwarding
import ErrorPages.Proofs.Identity
import ErrorPages.Proofs.Likeness
import ErrorPages.Proofs.Markup
import ErrorPages.Proofs.Merging
import ErrorPages.Proofs.Named
import ErrorPages.Proofs.Preview
import ErrorPages.Proofs.Replacement
import ErrorPages.Proofs.Reporting
import ErrorPages.Proofs.Secrecy
import ErrorPages.Proofs.Settings
import ErrorPages.Proofs.Shutdown
import ErrorPages.Proofs.Tagging
import ErrorPages.Proofs.Template.BadTag
import ErrorPages.Proofs.Template.Cursor
import ErrorPages.Proofs.Template.Extension
import ErrorPages.Proofs.Template.Health
import ErrorPages.Proofs.TwoRequests
import ErrorPages.Proofs.Utf8
