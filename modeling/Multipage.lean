import Multipage.File.Tree
import Multipage.Main
import Multipage.Proofs.Source
import Multipage.Proofs.Resource.Run
import Multipage.Proofs.Resource.Agreement
import Multipage.Proofs.Resource.Blame
import Multipage.Proofs.Media.Reading
import Multipage.Proofs.Media.Parameters
import Multipage.Proofs.Number.Spelling
import Multipage.Proofs.Media.LetterCase
import Multipage.Proofs.Media.Order
import Multipage.Proofs.Media.Exclusion
import Multipage.Proofs.Resource.Reordering
import Multipage.Proofs.Resource.Verbatim
import Multipage.Proofs.Config.Settings
import Multipage.Proofs.Command.Check
import Multipage.Proofs.Resource.Delivery
import Multipage.Proofs.Specline.Grammar
import Multipage.Proofs.Media.Writing
import Multipage.Proofs.Resource.Refusal
import Multipage.Proofs.Resource.Charset
import Multipage.Proofs.Resource.AcceptField
import Multipage.Proofs.Resource.Callback
import Multipage.Proofs.Resource.Readable
