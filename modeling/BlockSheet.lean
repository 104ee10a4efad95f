import BlockSheet.Block.Edit
import BlockSheet.Host
import BlockSheet.Style.Exchange
import BlockSheet.Stylesheet
import BlockSheet.Proofs.Text.Pattern
import BlockSheet.Proofs.Style.Shown
import BlockSheet.Proofs.Style.Exported
import BlockSheet.Proofs.Style.Levels
import BlockSheet.Proofs.Style.Leaves
import BlockSheet.Proofs.Style.Reordered
import BlockSheet.Proofs.Block.Splice
import BlockSheet.Proofs.Identity.Draw
import BlockSheet.Proofs.Identity.Recheck
import BlockSheet.Proofs.Session
import BlockSheet.Proofs.Stylesheet.Request
import BlockSheet.Proofs.Stylesheet.Repetition
import BlockSheet.Proofs.Stylesheet.Reordering
import BlockSheet.Proofs.Stylesheet.Preview
import BlockSheet.Proofs.Identity.FirstHolder
import BlockSheet.Proofs.Identity.Stable
import BlockSheet.Proofs.Identity.Selectors
import BlockSheet.Proofs.Binder.InSync
import BlockSheet.Proofs.Binder.Written
import BlockSheet.Proofs.Identity.Accepted
import BlockSheet.Proofs.Style.Escaped
import BlockSheet.Proofs.Exchange
import BlockSheet.Proofs.Style.Emptiness
import BlockSheet.Proofs.Style.Keyed
import BlockSheet.Proofs.Style.Decoded
import BlockSheet.Proofs.Breakpoints
import BlockSheet.Proofs.Style.Unambiguous
import BlockSheet.Proofs.Stylesheet.Batching
import BlockSheet.Proofs.Style.Normalized
import BlockSheet.Proofs.Style.Numbers
import BlockSheet.Proofs.Style.Units
import BlockSheet.Proofs.Style.Names
import BlockSheet.Proofs.Binder.Saved
import BlockSheet.Proofs.Style.Decoder
import BlockSheet.Proofs.Block.Found
