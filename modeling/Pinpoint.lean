import Pinpoint.Document
import Pinpoint.Document.ChildLists
import Pinpoint.Document.NameRegister
import Pinpoint.Markup.Reading
import Pinpoint.Proofs.Document.Attributes
import Pinpoint.Proofs.Document.History
import Pinpoint.Proofs.Document.Landmarks
import Pinpoint.Proofs.Document.Preorder
import Pinpoint.Proofs.Document.Register
import Pinpoint.Proofs.Markup.Conversion
import Pinpoint.Proofs.Search.Choice
import Pinpoint.Proofs.Search.Enumeration
import Pinpoint.Proofs.Search.Escalation
import Pinpoint.Proofs.Search.Fallback
import Pinpoint.Proofs.Search.KeptValues
import Pinpoint.Proofs.Search.Merging
import Pinpoint.Proofs.Search.Repetition
import Pinpoint.Proofs.Search.Restriction
import Pinpoint.Proofs.Search.Shared
import Pinpoint.Proofs.Search.SameSet
import Pinpoint.Proofs.Search.Siblings
import Pinpoint.Proofs.Search.UniqueId
import Pinpoint.Proofs.Selector.Comparison
import Pinpoint.Proofs.Selector.Expression
import Pinpoint.Proofs.Selector.Faults
import Pinpoint.Proofs.Selector.Path
import Pinpoint.Proofs.Selector.Query
import Pinpoint.Proofs.Selector.RoundTrip
import Pinpoint.Search.DocumentHost
import Pinpoint.Search.PlaceRow
import Pinpoint.Search.Shared
import Pinpoint.Selector.Path
import Pinpoint.Selector.Printer
import Pinpoint.Selector.Query
