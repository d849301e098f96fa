import Stockroom.Engine
import Stockroom.Server
import Stockroom.Proofs.Address.Login
import Stockroom.Proofs.Catalogue.Audit
import Stockroom.Proofs.Catalogue.Compose
import Stockroom.Proofs.Catalogue.Failure
import Stockroom.Proofs.Catalogue.IdColumn
import Stockroom.Proofs.Catalogue.Identity
import Stockroom.Proofs.Catalogue.Independence
import Stockroom.Proofs.Catalogue.Patch
import Stockroom.Proofs.Catalogue.Storable
import Stockroom.Proofs.Catalogue.Tie
import Stockroom.Proofs.Listing.Default
import Stockroom.Proofs.Listing.Fault
import Stockroom.Proofs.Listing.Order
import Stockroom.Proofs.Listing.Positive
import Stockroom.Proofs.Payload.Field
import Stockroom.Proofs.Problem.Body
import Stockroom.Proofs.Problem.Classify
import Stockroom.Proofs.Product.Page
import Stockroom.Proofs.Server.Create
import Stockroom.Proofs.Server.Delete
import Stockroom.Proofs.Server.Find
import Stockroom.Proofs.Server.List
import Stockroom.Proofs.Server.Owner
import Stockroom.Proofs.Server.Read
import Stockroom.Proofs.Server.Write
import Stockroom.Proofs.Service.Body
import Stockroom.Proofs.Service.Failure
import Stockroom.Proofs.Store.Pattern
