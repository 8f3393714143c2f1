import Aurae.Cells.Cell
import Aurae.Cells.Registry
import Aurae.Cells.Runs
import Aurae.Cells.Isolation
import Aurae.Service.Errors
import Aurae.Proxy.Backoff
import Aurae.Proxy.DoInCell
import Aurae.Service.Validation
import Aurae.Service.CellService
import Aurae.Service.Routing
import Aurae.Service.Faults
import Aurae.Service.Tasks
import Aurae.Service.Worlds
import Aurae.Script.Client
